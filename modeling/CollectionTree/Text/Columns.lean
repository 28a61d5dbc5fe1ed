/-
  Tables of text.

  Key definitions include:
    * `Text.leftAligned`
    * `Text.columns`
    * `Text.rule`
    * `Text.lines`
-/

namespace CollectionTree

namespace Text

/- Text filled with blanks to a width; longer text is kept. -/
def leftAligned
    (width : Nat)
    (text : String) : String :=
  text ++
    String.ofList
      (List.replicate (width - text.length) ' ')

/- Cells side by side with one blank between columns. -/
def columns
    (widths : List Nat)
    (cells : List String) : String :=
  " ".intercalate (List.zipWith leftAligned widths cells)

/- A horizontal rule. -/
def rule
    (width : Nat) : String :=
  String.ofList (List.replicate width '-')

/- Lines, each of which is ended. -/
def lines
    (texts : List String) : String :=
  String.join (texts.map (fun text => text ++ "\n"))

end Text

end CollectionTree
