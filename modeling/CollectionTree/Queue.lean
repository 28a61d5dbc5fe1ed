/-
  Queues: what comes first is served first.

  Key definitions include:
    * `Queue`
    * `Queue.toList`
    * `Queue.push`
    * `Queue.pop?`

  Key theorems include:
    * `Queue.toList_push`
    * `Queue.toList_eq_cons_of_pop?`
    * `Queue.pop?_eq_none_iff`
-/

namespace CollectionTree

/-
  The elements to be served next, in order, and the
  elements that came after them, the newest first.
-/
structure Queue (α : Type) where
  front : List α
  back : List α
  deriving DecidableEq, Repr

namespace Queue

variable {α : Type}

/- The queue without elements. -/
def empty : Queue α :=
  ⟨[], []⟩

/- The elements in the order in which they are served. -/
def toList
    (q : Queue α) : List α :=
  q.front ++ q.back.reverse

/- The number of elements. -/
def size
    (q : Queue α) : Nat :=
  q.front.length + q.back.length

/- Add an element at the end. -/
def push
    (q : Queue α)
    (x : α) : Queue α :=
  { q with back := x :: q.back }

/- Add elements at the end, the first one first. -/
def pushAll
    (q : Queue α)
    (xs : List α) : Queue α :=
  xs.foldl push q

/- The element to be served next and the queue after it. -/
def pop?
    (q : Queue α) : Option (α × Queue α) :=
  match q.front with
  | x :: front => some (x, { q with front := front })
  | [] =>
      match q.back.reverse with
      | x :: front => some (x, ⟨front, []⟩)
      | [] => none

------------------------------------------------------------
-- The Order of Service
------------------------------------------------------------

@[simp] theorem toList_empty :
    (empty : Queue α).toList = [] :=
  rfl

@[simp] theorem toList_push
    (q : Queue α)
    (x : α) :
    (q.push x).toList = q.toList ++ [x] := by
  simp [push, toList]

@[simp] theorem toList_pushAll
    (q : Queue α)
    (xs : List α) :
    (q.pushAll xs).toList = q.toList ++ xs := by
  induction xs generalizing q with
  | nil => simp [pushAll]
  | cons x xs ih =>
      have hRest := ih (q.push x)
      simp only [pushAll, List.foldl_cons] at hRest ⊢
      simp [hRest]

/- What is served is the first element. -/
theorem toList_eq_cons_of_pop?
    {q rest : Queue α}
    {x : α}
    (hPop : q.pop? = some (x, rest)) :
    q.toList = x :: rest.toList := by
  obtain ⟨front, back⟩ := q
  cases front with
  | cons y ys =>
      simp only [pop?, Option.some.injEq,
        Prod.mk.injEq] at hPop
      obtain ⟨rfl, rfl⟩ := hPop
      rfl
  | nil =>
      cases hBack : back.reverse with
      | nil => simp [pop?, hBack] at hPop
      | cons y ys =>
          simp only [pop?, hBack, Option.some.injEq,
            Prod.mk.injEq] at hPop
          obtain ⟨rfl, rfl⟩ := hPop
          simp [toList, hBack]

/- Nothing is served only from the queue without elements. -/
theorem pop?_eq_none_iff
    {q : Queue α} :
    q.pop? = none ↔ q.toList = [] := by
  obtain ⟨front, back⟩ := q
  cases front with
  | cons y ys => simp [pop?, toList]
  | nil =>
      cases hBack : back.reverse with
      | nil => simp [pop?, toList, hBack]
      | cons y ys => simp [pop?, toList, hBack]

end Queue

end CollectionTree
