import Flowdesk.Proofs.Sync.Backoff
import Flowdesk.Proofs.Sync.Retry
import Mathlib.Data.List.TakeWhile

/-!
# Waits between attempts

How long a run waits between its attempts is told by the clock alone: from the end of an
attempt that is to be repeated until the next one begins. As long as what is due about the run
is done when it is due, these waits are the delays of its attempts in turn, whatever else
happens. So they grow from a tenth of a second to two seconds for as many repetitions as a
signed word can count, and fall to nothing with the next one. There is a run that comes to it
whenever the settings allow that many repetitions.
-/

namespace Flowdesk.Sync

open Data

/-- Whether waits, in milliseconds, last from a tenth of a second to two seconds, and none is
shorter than one before it. -/
structure Grows (waits : List Nat) : Prop where
  bounded : ∀ wait ∈ waits, 100 ≤ wait ∧ wait ≤ 2000
  ordered : waits.Pairwise (· ≤ ·)

/-- The number of the attempt after a turn fits into a word. -/
theorem toNat_turn {turn : Nat} (early : turn < 2 ^ 31 + 1) :
    (UInt32.ofNat (turn + 1)).toNat = turn + 1 := by
  apply UInt32.toNat_ofNat_of_lt'
  unfold UInt32.size
  omega

namespace Retry

/-- The delays of the lower half of the range double up to the limit. -/
theorem delay_of_early {turn : Nat} (early : turn < 2 ^ 31) :
    delay turn = min (100 * 2 ^ turn) 2000 := by
  have attempt := toNat_turn (Nat.lt_succ_of_lt early)
  rw [delay, backoffMillis_of_le (by omega), attempt]
  rfl

/-- The first delay of the upper half is short. -/
theorem delay_of_late : delay (2 ^ 31) ≤ 25 := by
  have attempt := toNat_turn (Nat.lt_succ_self (2 ^ 31))
  apply backoffMillis_of_gt
  omega

/-- A delay of the lower half is no shorter than one before it. -/
theorem delay_mono {turn later : Nat} (before : turn ≤ later) (early : later < 2 ^ 31) :
    delay turn ≤ delay later := by
  have grown : 2 ^ turn ≤ 2 ^ later := Nat.pow_le_pow_right (by decide) before
  rw [delay_of_early (Nat.lt_of_le_of_lt before early), delay_of_early early]
  omega

/-- The delays of the first attempts grow exactly as far as they stay in the lower half. -/
theorem grows_delays_iff (count : Nat) :
    Grows ((List.range count).map delay) ↔ count ≤ 2 ^ 31 := by
  constructor
  · intro grows
    apply Nat.le_of_not_lt
    intro beyond
    have listed : delay (2 ^ 31) ∈ (List.range count).map delay :=
      List.mem_map_of_mem (List.mem_range.mpr beyond)
    have long := (grows.bounded _ listed).1
    have short := delay_of_late
    omega
  · intro few
    constructor
    · intro wait listed
      obtain ⟨turn, inside, rfl⟩ := List.mem_map.mp listed
      have positive : 0 < 2 ^ turn := Nat.two_pow_pos turn
      rw [delay_of_early (Nat.lt_of_lt_of_le (List.mem_range.mp inside) few)]
      omega
    · apply List.pairwise_map.mpr
      apply List.pairwise_le_range.imp_of_mem
      intro turn later _ inside before
      exact delay_mono before (Nat.lt_of_lt_of_le (List.mem_range.mp inside) few)

end Retry

namespace Timeline

/-- The waits of a run in the course of moves, given since when it waits already, if it does. It
begins to wait when it is noted that an attempt is repeated, and waits no longer when another
attempt is noted. -/
def waits (number : Nat) : Option Nat → Timeline → List Move → List Nat
  | _, _, [] => []
  | since, timeline, move :: moves =>
      let after := timeline.act move
      match timeline.run? number, after.run? number with
      | some before, some now =>
          if before.repeated ≠ now.repeated then
            waits number (some timeline.agenda.now) after moves
          else if before.made ≠ now.made then
            (since.map (timeline.agenda.now - ·)).toList ++ waits number none after moves
          else waits number since after moves
      | _, _ => waits number none after moves

/-- Whether time goes on past a point at which something is due about a run. -/
def Outruns (number : Nat) (timeline : Timeline) : Move → Prop
  | .wait time => ∃ due task, task.number = number ∧ timeline.agenda.Due due task ∧ due < time
  | _ => False

section Move

variable {timeline : Timeline} {number : Nat} {move : Move}

/-- A run is neglected by outrunning it or by abandoning it. -/
theorem neglects_iff :
    Neglects number timeline move ↔ Outruns number timeline move ∨ move = .abandon number := by
  cases move with
  | abandon other => simp [Neglects, Outruns]
  | _ => simp [Neglects, Outruns]

/-- A run that is abandoned is over. -/
theorem over_abandon (known : number < timeline.next) :
    (timeline.act (.abandon number)).Over number := by
  have erased : (timeline.running.erase number).get? number = none :=
    (Table.get?_erase _ number number).trans (if_pos rfl)
  simp only [act]
  exact abandon_branches (fun gone => ⟨known, gone⟩) (fun _ _ _ => ⟨known, erased⟩)
    fun _ _ _ => ⟨known, erased⟩

variable {since : Option Nat} {moves : List Move}

/-- Nobody waits for a run that does not go on before or after a move. -/
theorem waits_of_gone
    (gone : timeline.run? number = none ∨ (timeline.act move).run? number = none) :
    waits number since timeline (move :: moves) =
      waits number none (timeline.act move) moves := by
  rw [waits]
  rcases gone with before | after
  · rw [before]
  · rw [after]
    cases timeline.run? number <;> rfl

/-- A move that leaves the record of a run alone leaves it waiting or not. -/
theorem waits_of_same {run : Run} (before : timeline.run? number = some run)
    (after : (timeline.act move).run? number = some run) :
    waits number since timeline (move :: moves) = waits number since (timeline.act move) moves := by
  rw [waits, before, after]
  simp

/-- There are no waits of a run that is over. -/
theorem waits_of_over (ended : timeline.Over number) : waits number since timeline moves = [] := by
  induction moves generalizing timeline since with
  | nil => rfl
  | cons move moves inductionHypothesis =>
    rw [waits_of_gone (.inl ended.2)]
    exact inductionHypothesis (over_act ended move).1

/-- Nor are there any of a run that a move brings to its end. -/
theorem waits_of_ended (ended : (timeline.act move).Over number) :
    waits number since timeline (move :: moves) = [] := by
  rw [waits_of_gone (.inr ended.2), waits_of_over ended]

end Move

namespace Stage

/-- The attempt that a stage is about, the first one being zero. -/
def turn : Stage → Nat
  | attempting turn | pausing turn => turn

/-- Since when the run waits, if it does. -/
def since (retry : Retry) (began : Nat) : Stage → Option Nat
  | attempting _ => none
  | pausing turn => some (began + (attempting turn).time retry)

end Stage

section Law

variable {retry : Retry} {run : Run} {number began : Nat} {stage : Stage} {timeline : Timeline}

/-- An attempt that is to be repeated is over, and the run begins to wait. -/
theorem waits_of_failed {turn : Nat} {move : Move} {moves : List Move} {since : Option Nat}
    (before : timeline.run? number = some ((Stage.attempting turn).run run))
    (after : (timeline.act move).run? number = some ((Stage.pausing turn).run run)) :
    waits number since timeline (move :: moves) =
      waits number (some timeline.agenda.now) (timeline.act move) moves := by
  have counted : UInt32.ofNat turn ≠ UInt32.ofNat (turn + 1) := by
    rw [UInt32.ofNat_add]
    intro same
    exact absurd (UInt32.left_eq_add.mp same) (by decide)
  rw [waits, before, after]
  exact if_pos counted

/-- The wait is over with the next attempt. -/
theorem waits_of_resumed {turn since : Nat} {move : Move} {moves : List Move}
    (before : timeline.run? number = some ((Stage.pausing turn).run run))
    (after : (timeline.act move).run? number = some ((Stage.attempting (turn + 1)).run run)) :
    waits number (some since) timeline (move :: moves) =
      (timeline.agenda.now - since) :: waits number none (timeline.act move) moves := by
  rw [waits, before, after]
  simp [Stage.run]

/-- Nobody waits for the first attempt. -/
theorem waits_of_started {move : Move} {moves : List Move}
    (before : timeline.run? number = some run) (made : run.made = 0) (repeated : run.repeated = 0)
    (after : (timeline.act move).run? number = some ((Stage.attempting 0).run run)) :
    waits number none timeline (move :: moves) = waits number none (timeline.act move) moves := by
  rw [waits, before, after]
  simp [Stage.run, made, repeated]

/-- A run comes to no stage beyond its last attempt. -/
theorem Stands.turn_lt (stands : Stands retry run number began stage timeline) :
    stage.turn < retry.attempts := by
  have inside := stands.inside
  cases stage with
  | attempting turn => exact inside
  | pausing turn => exact Nat.lt_of_succ_lt inside

/-- From any stage on, the waits of a run are the delays of its attempts in turn. If the run is
brought to its end, there is one before each attempt that is left. -/
theorem waits_of_stands (planned : timeline.Planned)
    (plays : Plays retry run timeline.coordinator.settings) {moves : List Move}
    (timely : ¬Occurs (Outruns number) timeline moves)
    (stands : Stands retry run number began stage timeline) :
    ∃ count, stage.turn + count < retry.attempts ∧
      waits number (stage.since retry began) timeline moves =
        (List.range' stage.turn count).map Retry.delay ∧
      (¬Occurs (Neglects number) timeline moves → (timeline.after moves).run? number = none →
        stage.turn + count + 1 = retry.attempts) := by
  induction moves generalizing timeline stage with
  | nil =>
    exact ⟨0, stands.turn_lt, rfl, fun _ gone => nomatch gone.symm.trans stands.goes⟩
  | cons move moves inductionHypothesis =>
    obtain ⟨now, later⟩ := not_or.mp timely
    have orderly := planned_act planned move
    have still : Plays retry run (timeline.act move).coordinator.settings :=
      (settings_act timeline move).symm ▸ plays
    by_cases abandoned : move = .abandon number
    · subst abandoned
      have known := planned.known number _ stands.goes
      exact ⟨0, stands.turn_lt, waits_of_ended (over_abandon known),
        fun heeded => absurd (.inl rfl) heeded⟩
    have heeded : ¬Neglects number timeline move := by
      rw [neglects_iff]
      exact not_or.mpr ⟨now, abandoned⟩
    rcases stands.act planned heeded with ⟨position, rfl, ready, moment⟩ | stays
    swap
    · obtain ⟨count, inside, listed, ends⟩ := inductionHypothesis orderly still later stays
      refine ⟨count, inside, ?_, fun along => ends (not_or.mp along).2⟩
      rw [waits_of_same stands.goes stays.goes]
      exact listed
    cases next : stage.next? retry with
    | none =>
      have reported : Reported retry run number began (timeline.act (.work position)) :=
        (stands.last planned plays ready moment next).1
      refine ⟨0, stands.turn_lt, waits_of_ended reported.ended, fun _ _ => ?_⟩
      rw [(Stage.last_of_next?_eq_none stands.inside next).1]
      exact Nat.sub_add_cancel (Nat.zero_lt_of_lt stands.turn_lt)
    | some after =>
      have onward : Stands retry run number began after (timeline.act (.work position)) :=
        stands.next plays ready moment next
      obtain ⟨count, inside, listed, ends⟩ := inductionHypothesis orderly still later onward
      cases stage with
      | attempting turn =>
        obtain ⟨follows, rfl⟩ := Stage.next?_attempting next
        refine ⟨count, inside, ?_, fun along => ends (not_or.mp along).2⟩
        rw [waits_of_failed stands.goes onward.goes, moment]
        exact listed
      | pausing turn =>
        obtain rfl := Option.some.inj next
        refine ⟨count + 1, ?_, ?_, fun along gone => ?_⟩
        · change turn + 1 + count < retry.attempts at inside
          change turn + (count + 1) < retry.attempts
          omega
        · have lasted : timeline.agenda.now - (began + (Stage.attempting turn).time retry) =
              Retry.delay turn := by
            rw [moment, Stage.time, Stage.time, total_succ Retry.delay]
            omega
          refine (waits_of_resumed stands.goes onward.goes).trans ?_
          rw [lasted]
          exact congrArg (Retry.delay turn :: ·) listed
        · have all := ends (not_or.mp along).2 gone
          change turn + 1 + count + 1 = retry.attempts at all
          change turn + (count + 1) + 1 = retry.attempts
          omega

/-- The waits of a run that was asked for, and whose start is due, are the delays of its first
attempts. -/
theorem waits_of_asked (planned : timeline.Planned) (dated : timeline.Dated) {time : Nat}
    (goes : timeline.run? number = some run)
    (due : timeline.agenda.Due time (.start number)) {moves : List Move}
    (timely : ¬Occurs (Outruns number) timeline moves) :
    ∃ count ≤ timeline.coordinator.settings.maxRetries.toNat,
      waits number none timeline moves = (List.range count).map Retry.delay := by
  induction moves generalizing timeline with
  | nil => exact ⟨0, Nat.zero_le _, rfl⟩
  | cons move moves inductionHypothesis =>
    obtain ⟨now, later⟩ := not_or.mp timely
    have orderly := planned_act planned move
    have kept := settings_act timeline move
    by_cases abandoned : move = .abandon number
    · subst abandoned
      have known := planned.known number run goes
      exact ⟨0, Nat.zero_le _, waits_of_ended (over_abandon known)⟩
    have heeded : ¬Neglects number timeline move := by
      rw [neglects_iff]
      exact not_or.mpr ⟨now, abandoned⟩
    have found : timeline.run? (RunTask.start number).number = some run := goes
    rcases done_or_due planned found due heeded with ⟨position, rfl, ready, _⟩ | ⟨stays, still⟩
    swap
    · obtain ⟨count, few, listed⟩ :=
        inductionHypothesis orderly (dated_act planned dated move) stays still later
      refine ⟨count, kept ▸ few, ?_⟩
      rw [waits_of_same goes stays]
      exact listed
    cases busy : timeline.coordinator.syncing run.uri with
    | true =>
      have ended : (timeline.act (.work position)).Over number :=
        (start_refused planned ready goes busy).2.1
      exact ⟨0, Nat.zero_le _, waits_of_ended ended⟩
    | false =>
      let retry : Retry := ⟨timeline.coordinator.settings.timeout,
        timeline.coordinator.settings.maxRetries, fun turn => { run with made := turn }.attempt⟩
      have plays : Plays retry run timeline.coordinator.settings := ⟨rfl, rfl, fun _ _ => rfl⟩
      have starts : Stands retry run number timeline.agenda.now (.attempting 0)
          (timeline.act (.work position)) :=
        (stands_start planned dated plays ready goes busy).1
      obtain ⟨count, inside, listed, _⟩ :=
        waits_of_stands orderly (kept.symm ▸ plays) later starts
      have made : run.made = 0 := planned.suited _ (planned.take ready).2.2 run goes
      have repeated : run.repeated = 0 := dated.unrepeated number run goes made
      refine ⟨count, ?_, ?_⟩
      · have bounded : retry.attempts ≤ retry.greatest.toNat + 1 := Retry.attempts_le
        change 0 + count < retry.attempts at inside
        change count ≤ retry.greatest.toNat
        omega
      · rw [waits_of_started goes made repeated starts.goes, List.range_eq_range']
        exact listed

/-- A run becomes known by being asked for, and its start is due then. -/
theorem unknown_act (planned : timeline.Planned) (unknown : timeline.next ≤ number) (move : Move) :
    (timeline.act move).next ≤ number ∨
      ∃ run, (timeline.act move).run? number = some run ∧
        (timeline.act move).agenda.Due timeline.agenda.now (.start number) := by
  cases move with
  | connect | disconnect | observe | beginResolution => exact .inl unknown
  | ask uri direction attempts =>
    rcases Nat.eq_or_lt_of_le unknown with rfl | beyond
    · refine .inr ⟨⟨uri, direction, attempts, timeline.agenda.now, 0, 0⟩, ?_, Agenda.due_add _ _⟩
      exact (Table.get?_put _ timeline.next timeline.next _).trans (if_pos rfl)
    · exact .inl beyond
  | abandon other =>
    apply Or.inl
    simp only [act]
    exact abandon_branches (fun _ => unknown) (fun _ _ _ => unknown) fun _ _ _ => unknown
  | work position =>
    apply Or.inl
    simp only [act]
    refine workAt_branches (fun _ => unknown) (fun _ _ _ => unknown) ?turned
    case turned =>
      intro task run after _ goes turn
      have known := planned.known task.number run goes
      have other : task.number ≠ number := Nat.ne_of_lt (Nat.lt_of_lt_of_le known unknown)
      exact Nat.le_trans (Nat.le_of_eq (turn.elsewhere other).1) unknown
  | wait time =>
    apply Or.inl
    simp only [act]
    exact waitFor_branches unknown fun _ => unknown

/-- So are those of a run that may yet be asked for. -/
theorem waits_of_unknown (planned : timeline.Planned) (dated : timeline.Dated)
    (unknown : timeline.next ≤ number) {moves : List Move}
    (timely : ¬Occurs (Outruns number) timeline moves) :
    ∃ count ≤ timeline.coordinator.settings.maxRetries.toNat,
      waits number none timeline moves = (List.range count).map Retry.delay := by
  induction moves generalizing timeline with
  | nil => exact ⟨0, Nat.zero_le _, rfl⟩
  | cons move moves inductionHypothesis =>
    have later := (not_or.mp timely).2
    have orderly := planned_act planned move
    have dates := dated_act planned dated move
    have gone : timeline.run? number = none := by
      rw [Option.eq_none_iff_forall_ne_some]
      intro run goes
      exact absurd (planned.known number run goes) (Nat.not_lt.mpr unknown)
    rw [waits_of_gone (.inl gone), ← settings_act timeline move]
    rcases unknown_act planned unknown move with still | ⟨run, goes, due⟩
    · exact inductionHypothesis orderly dates still later
    · exact waits_of_asked orderly dates goes due later

end Law

/-- What happens in the course of moves happens in it under any wider description. -/
theorem occurs_mono {event wider : Timeline → Move → Prop}
    (widens : ∀ timeline move, event timeline move → wider timeline move) (timeline : Timeline)
    (moves : List Move) (occurs : Occurs event timeline moves) : Occurs wider timeline moves := by
  induction moves generalizing timeline with
  | nil => exact occurs
  | cons move moves inductionHypothesis =>
    rcases occurs with now | later
    · exact .inl (widens timeline move now)
    · exact .inr (inductionHypothesis (timeline.act move) later)

/-- A run all of whose attempts take too long. -/
def stubbornRun : Run := ⟨"", .semanticToGraph, [⟨0, .error (.timeout "" 0)⟩], 0, 0, 0⟩

/-- Such a run makes as many attempts as it may. -/
theorem attempts_stubbornRun (settings : Settings) :
    (Retry.mk settings.timeout settings.maxRetries
      fun turn => { stubbornRun with made := turn }.attempt).attempts =
        settings.maxRetries.toNat + 1 := by
  have fails (turn : Nat) :
      { stubbornRun with made := turn }.attempt = ⟨0, .error (.timeout "" 0)⟩ := by
    cases turn <;> rfl
  unfold Retry.attempts
  rw [List.takeWhile_eq_self_iff.mpr, List.length_range]
  intro turn _
  simp only [Retry.passes, Retry.outcome?, fails, if_pos (Nat.zero_le _)]
  rfl

/-- The waits of such a run are the delays of all the attempts that may be repeated. -/
theorem exists_waits (settings : Settings) :
    ∃ moves, ¬Occurs (Outruns 0) (create settings) moves ∧
      waits 0 none (create settings) moves =
        (List.range settings.maxRetries.toNat).map Retry.delay := by
  let retry : Retry := ⟨settings.timeout, settings.maxRetries,
    fun turn => { stubbornRun with made := turn }.attempt⟩
  let asks : Move := .ask "" .semanticToGraph stubbornRun.attempts
  let asked := (create settings).act asks
  let begun := asked.act (.work 0)
  have planned : asked.Planned := planned_act (planned_create settings) asks
  have dated : asked.Dated := dated_act (planned_create settings) (dated_create settings) asks
  have orderly : begun.Planned := planned_act planned (.work 0)
  have plays : Plays retry stubbornRun settings := ⟨rfl, rfl, fun _ _ => rfl⟩
  have kept : begun.coordinator.settings = settings := settings_act asked (.work 0)
  have goes : asked.run? 0 = some stubbornRun := rfl
  have ready : asked.agenda.ready[0]? = some (.start 0) := rfl
  have starts : Stands retry stubbornRun 0 asked.agenda.now (.attempting 0) begun :=
    (stands_start planned dated plays ready goes rfl).1
  obtain ⟨more, heeded, reported⟩ := starts.exists_end orderly (kept.symm ▸ plays)
  have timely : ¬Occurs (Outruns 0) begun more := fun occurs =>
    heeded (occurs_mono (fun _ _ outruns => neglects_iff.mpr (.inl outruns)) begun more occurs)
  obtain ⟨count, _, listed, ends⟩ :=
    waits_of_stands orderly (kept.symm ▸ plays) timely starts
  have all : 0 + count + 1 = settings.maxRetries.toNat + 1 :=
    (ends heeded reported.ended.2).trans (attempts_stubbornRun settings)
  refine ⟨asks :: .work 0 :: more, ?_, ?_⟩
  · exact fun occurs => occurs.elim id fun later => later.elim id timely
  · have repetitions : settings.maxRetries.toNat = count := by omega
    rw [waits_of_gone (.inl rfl), waits_of_started goes rfl rfl starts.goes, repetitions,
      List.range_eq_range']
    exact listed

/-- The delays are a tenth of a second that doubles up to two seconds for the attempts of the
lower half of the range, and for no others. Whatever happens, as long as what is due about a run
is done when it is due, its waits last from a tenth of a second to two seconds, none shorter than
one before it, exactly if there are no more than the lower half of the range counts. So they do
in all runs exactly if the settings allow no more repetitions than that.

Proof: the exponent of a delay is a word with a sign. It is negative exactly for attempts in the
upper half of the range, where the delay is at most a quarter of the first one. The waits of a run
that is heeded are the delays of the first attempts in order, as many as the run repeated. -/
theorem delays_grow_iff (settings : Settings) :
    (∀ attempt, backoffNanos attempt = doubledNanos attempt.toNat ↔ attempt.toNat ≤ 2 ^ 31) ∧
    (∀ number moves, ¬Occurs (Outruns number) (create settings) moves →
      let waiting := waits number none (create settings) moves
      waiting.length ≤ settings.maxRetries.toNat ∧
        (Grows waiting ↔ waiting.length ≤ 2 ^ 31)) ∧
    ((∀ number moves, ¬Occurs (Outruns number) (create settings) moves →
      Grows (waits number none (create settings) moves)) ↔
        settings.maxRetries.toNat ≤ 2 ^ 31) := by
  have told (number : Nat) (moves : List Move)
      (timely : ¬Occurs (Outruns number) (create settings) moves) :
      let waiting := waits number none (create settings) moves
      waiting.length ≤ settings.maxRetries.toNat ∧
        (Grows waiting ↔ waiting.length ≤ 2 ^ 31) := by
    obtain ⟨count, few, listed⟩ := waits_of_unknown (planned_create settings)
      (dated_create settings) (Nat.zero_le number) timely
    simp only [listed, List.length_map, List.length_range]
    exact ⟨few, Retry.grows_delays_iff count⟩
  refine ⟨backoffNanos_eq_iff, told, ?_⟩
  constructor
  · intro grows
    obtain ⟨moves, timely, listed⟩ := exists_waits settings
    have all := grows 0 moves timely
    rwa [listed, Retry.grows_delays_iff] at all
  · intro few number moves timely
    obtain ⟨bounded, law⟩ := told number moves timely
    exact law.mpr (Nat.le_trans bounded few)

/-- The first attempt of the upper half of the range is made at once, though the delay is meant
to have reached its limit long before. -/
theorem late_attempt_is_not_delayed :
    backoffNanos 2147483649 = 0 ∧ doubledNanos (2147483649 : UInt32).toNat = 2000000000 :=
  ⟨by decide +kernel, doubledNanos_of_late (by decide)⟩

end Timeline

end Flowdesk.Sync
