import CollectionTree.CommandLine.Response
import CollectionTree.Proofs.LinkHistory
import CollectionTree.Proofs.Trials

/-
  What is shown of a replay.

  Key definitions include:
    * `Trial.cost`
    * `Replay.expected`
    * `Replay.rowAfter`
    * `Replay.table`

  Key theorems include:
    * `Replay.estimates_eq_scanl`
    * `Replay.toNat_etx_of_trials`
    * `Replay.rows_eq_table`
    * `CommandLine.replays_show_latest_costs`

  A replay keeps one estimate and shows it after each trial.
  What a row shows depends on the latest sixteen trials
  before it and on nothing else.
-/

namespace CollectionTree

------------------------------------------------------------
-- Costs of Trials
------------------------------------------------------------

namespace Trial

/- The cost of a trial: a failure counts double. -/
def cost
    (trial : Trial) : Nat :=
  if trial.acked then
    trial.transmissions.toNat
  else
    min (2 * trial.transmissions.toNat) 255

/- What a trial does to an estimate. -/
def change
    (trial : Trial) : LinkEstimate.Change :=
  if trial.acked then
    .success trial.transmissions
  else
    .failure trial.transmissions

theorem cost?_change
    (trial : Trial) :
    trial.change.cost? = some trial.cost := by
  unfold change cost
  cases trial.acked with
  | true => rfl
  | false => rfl

theorem recordTrial_eq
    (e : LinkEstimate)
    (trial : Trial) :
    e.recordTrial trial = e.change trial.change := by
  unfold LinkEstimate.recordTrial change
  cases trial.acked with
  | true => rfl
  | false => rfl

end Trial

namespace Replay

/- Trials do not reset an estimate, so all of them count. -/
theorem costsSinceReset_trials
    (trials : List Trial) :
    LinkEstimate.costsSinceReset
        (trials.map Trial.change) =
      trials.map Trial.cost := by
  induction trials using List.reverseRecOn with
  | nil => rfl
  | append_singleton earlier last ih =>
      rw [List.map_append, List.map_singleton,
        LinkEstimate.costsSinceReset_concat,
        Trial.cost?_change, ih, List.map_append]
      rfl

------------------------------------------------------------
-- Estimates
------------------------------------------------------------

/-
  What is expected after some trials: half of the sum of the
  sixteen latest costs, if sixteen trials of cost four came
  before.
-/
def expected
    (trials : List Trial) : Nat :=
  8 *
    ((List.replicate 16 4 ++
      trials.map Trial.cost).rtake 16).sum / 16

theorem estimatesFrom_eq_scanl
    (e : LinkEstimate)
    (trials : List Trial) :
    estimatesFrom e trials =
      trials.scanl LinkEstimate.recordTrial e := by
  induction trials generalizing e with
  | nil => rfl
  | cons first rest ih =>
      rw [estimatesFrom, ih, List.scanl_cons]

theorem toNat_etx_of_trials
    (trials : List Trial) :
    (trials.foldl LinkEstimate.recordTrial
        LinkEstimate.fresh).etx.toNat =
      expected trials := by
  have hChanges :
      trials.foldl LinkEstimate.recordTrial
          LinkEstimate.fresh =
        LinkEstimate.after (trials.map Trial.change) := by
    unfold LinkEstimate.after
    rw [List.foldl_map]
    congr 1
    funext e trial
    exact Trial.recordTrial_eq e trial
  rw [hChanges, LinkEstimate.toNat_etx_after,
    costsSinceReset_trials]
  rfl

/- A failure costs no more than a byte can hold. -/
example :
    expected [⟨true, 1⟩, ⟨false, 200⟩] =
      8 * (14 * 4 + 1 + 255) / 16 := by
  decide

------------------------------------------------------------
-- Rows
------------------------------------------------------------

/- The lines above the rows. -/
def header : List String :=
  ["=== ETX Replay ===",
    "",
    Text.columns widths ["Step", "Outcome", "ETX", "Tx"],
    Text.rule 34]

/- What the row of a step shows of the trials up to it. -/
def rowAfter
    (trials : List Trial)
    (step : Nat)
    (label : String) : String :=
  let etx := expected (trials.take step)
  Text.columns widths
    [Whole.text step, label, Whole.text etx,
      Fixed.text 2 etx 8]

/- A row before the first trial and one after each trial. -/
def table
    (trials : List Trial) : List String :=
  ("initial" :: trials.map Trial.label).mapIdx
    (rowAfter trials)

theorem rowsFrom_eq_mapIdx
    (first : Nat)
    (entries : List (String × LinkEstimate)) :
    rowsFrom first entries =
      entries.mapIdx
        (fun i entry => row (first + i) entry.1 entry.2) := by
  induction entries generalizing first with
  | nil => rfl
  | cons entry rest ih =>
      rw [rowsFrom, ih, List.mapIdx_cons]
      simp only [Nat.add_zero, Nat.add_assoc, Nat.add_comm 1]

theorem row_eq_rowAfter
    (trials : List Trial)
    (step : Nat)
    (label : String) :
    row step label
        ((trials.take step).foldl LinkEstimate.recordTrial
          LinkEstimate.fresh) =
      rowAfter trials step label := by
  unfold row rowAfter LinkEstimate.transmissionsText
  rw [toNat_etx_of_trials]
  rfl

theorem rows_eq_table
    (trials : List Trial) :
    rows trials = table trials := by
  unfold rows table estimates
  rw [rowsFrom_eq_mapIdx, estimatesFrom_eq_scanl]
  apply List.ext_getElem
  · simp
  · intro step hRows hTable
    -- The estimate of a row is that of the trials before it.
    simp only [List.getElem_mapIdx, List.getElem_zip,
      List.getElem_scanl, Nat.zero_add]
    exact row_eq_rowAfter trials step _

theorem text_eq
    (trials : List Trial) :
    text trials = Text.lines (header ++ table trials) := by
  rw [← rows_eq_table]
  rfl

end Replay

------------------------------------------------------------
-- Command Lines
------------------------------------------------------------

namespace CommandLine

theorem ofText_long
    {name value : List Char}
    (hAbsent : '=' ∉ name) :
    Argument.ofText ('-' :: '-' :: (name ++ '=' :: value)) =
      .long name (some value) := by
  have hCut := Text.splitFirst?_append hAbsent value
  cases hRest : name ++ '=' :: value with
  | nil => simp at hRest
  | cons c rest =>
      rw [hRest] at hCut
      simp only [Argument.ofText, hCut]

theorem readAll_outcomes
    (outcomes : String) :
    readAll replayChoices none ["--outcomes=" ++ outcomes] =
      .ok (some outcomes.toList) := by
  have hText :
      ("--outcomes=" ++ outcomes).toList =
        '-' :: '-' ::
          ("outcomes".toList ++ '=' :: outcomes.toList) := by
    rw [String.toList_append]
    rfl
  unfold readAll readLeading
  rw [hText, ofText_long (by decide)]
  rfl

/- Any text can be given, also one that begins with a dash. -/
theorem parse_outcomes
    (outcomes : String) :
    Command.parse ["etx", "--outcomes=" ++ outcomes] =
      .ok (.replay outcomes.toList) := by
  have hNamed :
      Command.parse ["etx", "--outcomes=" ++ outcomes] =
        Command.parseNamed "etx"
          ["--outcomes=" ++ outcomes] :=
    rfl
  rw [hNamed, Command.parseNamed, if_neg (by decide),
    if_pos rfl, readAll_outcomes]
  rfl

------------------------------------------------------------
-- Answers
------------------------------------------------------------

/- The answer is a whole table or a complaint. -/
theorem respond_replay
    {args : List String}
    {outcomes : List Char}
    (hArgs : Command.parse args = .ok (.replay outcomes))
    (files : String → Option ByteArray) :
    (∃ trials,
        Replay.parse outcomes = .ok trials ∧
          respond files args =
            .success
              (Text.lines
                (Replay.header ++ Replay.table trials))) ∨
      ∃ fault,
        Replay.parse outcomes = .error fault ∧
          respond files args =
            (complaintOf fault).output := by
  unfold respond
  rw [hArgs]
  dsimp only [Command.run, runReplay]
  cases Replay.parse outcomes with
  | ok trials =>
      exact Or.inl
        ⟨trials, rfl,
          congrArg Output.success (Replay.text_eq trials)⟩
  | error fault => exact Or.inr ⟨fault, rfl, rfl⟩

/-
  A replay succeeds just if every text between commas that
  is not blank is a trial, and shows nothing if it fails.
  Else it shows a row before the first trial and one after
  each of them, with half of the sum of the latest sixteen
  costs, rounded down.
-/
theorem replays_show_latest_costs
    (files : String → Option ByteArray)
    (outcomes : String) :
    Command.parse ["etx", "--outcomes=" ++ outcomes] =
        .ok (.replay outcomes.toList) ∧
      ∃ parts,
        Text.IsSplit ',' outcomes.toList parts ∧
          ∀ args,
            Command.parse args =
                .ok (.replay outcomes.toList) →
              let tokens :=
                parts.filter
                  (fun part => !part.all Text.isBlank)
              let answer := respond files args
              (answer.code = 0 ↔
                  ∀ token ∈ tokens,
                    ∃ trial, Trial.IsWritten token trial) ∧
                (answer.code ≠ 0 → answer.stdout = "") ∧
                (answer.code = 0 →
                  ∃ trials,
                    List.Forall₂ Trial.IsWritten tokens
                        trials ∧
                      answer.stdout =
                        Text.lines
                          (Replay.header ++
                            Replay.table trials)) := by
  have hSplit :=
    Text.pieces_eq_iff.mp
      (rfl : Text.pieces ',' outcomes.toList = _)
  refine ⟨parse_outcomes outcomes, _, hSplit, ?_⟩
  intro args hArgs tokens answer
  have hTokens : Replay.tokens outcomes.toList = tokens :=
    Replay.tokens_of_isSplit hSplit
  rw [← hTokens, ← Replay.exists_parse_iff]
  simp only [← Replay.parse_eq_ok_iff]
  rcases respond_replay hArgs files with
    ⟨trials, hRead, hAnswer⟩ | ⟨fault, hRead, hAnswer⟩
  · have hCode : answer.code = 0 := congrArg Output.code hAnswer
    refine ⟨iff_of_true hCode ⟨trials, hRead⟩, ?_, ?_⟩
    · exact fun hFailed => absurd hCode hFailed
    · exact fun _ =>
        ⟨trials, hRead, congrArg Output.stdout hAnswer⟩
  · have hCode : answer.code = 1 := congrArg Output.code hAnswer
    have hFailed : answer.code ≠ 0 := by
      rw [hCode]
      decide
    refine ⟨iff_of_false hFailed ?_, ?_, ?_⟩
    · rintro ⟨trials, hTrials⟩
      rw [hRead] at hTrials
      contradiction
    · exact fun _ => congrArg Output.stdout hAnswer
    · exact fun hSuccess => absurd hSuccess hFailed

/- A blank between commas counts for nothing. -/
theorem replays_show_latest_costs_of_two :
    let tokens := [['1'], ['x', '2', '0', '0']]
    let answer :=
      respond (fun _ => none) ["etx", "--outcomes=1, ,x200"]
    answer.code = 0 ∧
      ∃ trials,
        List.Forall₂ Trial.IsWritten tokens trials ∧
          answer.stdout =
            Text.lines
              (Replay.header ++ Replay.table trials) := by
  intro tokens answer
  obtain ⟨hArgs, parts, hSplit, hAll⟩ :=
    replays_show_latest_costs (fun _ => none) "1, ,x200"
  have hTokens :
      parts.filter (fun part => !part.all Text.isBlank) =
        tokens := by
    rw [← Text.pieces_eq_iff.mpr hSplit]
    decide
  have hFirst : Trial.IsWritten ['1'] ⟨true, 1⟩ :=
    Trial.parse_eq_ok_iff.mp (by decide)
  have hSecond :
      Trial.IsWritten ['x', '2', '0', '0'] ⟨false, 200⟩ :=
    Trial.parse_eq_ok_iff.mp (by decide)
  have hWritten :
      ∀ token ∈ tokens,
        ∃ trial, Trial.IsWritten token trial :=
    List.forall_mem_cons.mpr
      ⟨⟨_, hFirst⟩, List.forall_mem_singleton.mpr ⟨_, hSecond⟩⟩
  obtain ⟨hCode, -, hShown⟩ := hAll _ hArgs
  rw [hTokens] at hCode hShown
  have hSuccess := hCode.mpr hWritten
  exact ⟨hSuccess, hShown hSuccess⟩

end CommandLine

end CollectionTree
