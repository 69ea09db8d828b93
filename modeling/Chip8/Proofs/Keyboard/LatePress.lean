import Chip8.Proofs.Keyboard.Polling

/-!
# Late presses

A key that has not been seen for long counts as held until a poll finds that out, and a poll looks
for such keys only after it has read its codes.  So the next code of the key is a fresh press if
another poll has come by late enough in between; otherwise it only goes on with the old press.
-/

namespace Chip8.Keyboard

/-- Two polls that read a key, and what is called before them and between them, where no poll reads
that key.  The later poll reads `code`, its first one of the key, after `codes`. -/
structure Reread where
  key : Fin 16
  before : List Call
  seen : Float
  pending : List Int
  between : List Call
  now : Float
  latest : List Int
  codes : List Int
  code : Int
  rest : List Int
  typed : Typed (Poller.readable pending) key
  quiet : ∀ call ∈ between, ∀ time, ¬ call.Reads key time
  split : Poller.readable latest = codes ++ code :: rest
  first : ¬ Typed codes key
  means : Means code key

def Call.time? : Call → Option Float
  | .poll now _ => some now
  | .capture | .take => none

namespace Reread

def since (reread : Reread) : List Call := .poll reread.seen reread.pending :: reread.between

def calls (reread : Reread) : List Call := reread.before ++ reread.since

def Ordered (reread : Reread) : Prop :=
  ((reread.calls ++ [Call.poll reread.now reread.latest]).filterMap Call.time?).Pairwise (· ≤ ·)

/-- The press that is latched when the later poll comes to the code. -/
def latchedBefore (reread : Reread) (poller : Poller) : Option (Fin 16) :=
  (reading reread.now reread.codes (after poller reread.calls)).2.pressed

def latched (reread : Reread) (poller : Poller) : Option (Fin 16) :=
  (reading reread.now (reread.codes ++ [reread.code]) (after poller reread.calls)).2.pressed

/-- What the later poll latches by reading the code. -/
structure PressesIfFoundLate (reread : Reread) (poller : Poller) : Prop where
  fresh (late : ∃ call ∈ reread.since, call.FindsLate reread.seen) :
    reread.latched poller = some reread.key
  stale (onTime : ∀ call ∈ reread.since, ¬ call.FindsLate reread.seen) :
    reread.latched poller = reread.latchedBefore poller

end Reread

/-- A key that was not seen for long enough is pressed afresh by its next code. -/
def PressesWhenLate : Prop :=
  ∀ (poller : Poller) (reread : Reread), reread.Ordered →
    Poller.holdSeconds < reread.now - reread.seen → reread.latched poller = some reread.key

variable {calls between : List Call} {seen time : Float} {pending : List Int} {key : Fin 16}

theorem heldSince_of_latest (typed : Typed (Poller.readable pending) key)
    (quiet : ∀ call ∈ between, ∀ time, ¬ call.Reads key time) :
    HeldSince (calls ++ .poll seen pending :: between) key time ↔
      time = seen ∧ ∀ call ∈ .poll seen pending :: between, ¬ call.FindsLate seen := by
  induction between using List.reverseRecOn with
  | nil =>
      simp only [heldSince_concat_poll, typed, true_and, not_true_eq_false, false_and, or_false,
        List.mem_singleton, forall_eq, findsLate_poll_iff]
      constructor
      · rintro ⟨rfl, onTime⟩
        exact ⟨rfl, onTime⟩
      · rintro ⟨rfl, onTime⟩
        exact ⟨rfl, onTime⟩
  | append_singleton between call ih =>
      have unread : ¬ ∃ time, call.Reads key time :=
        fun ⟨time, reads⟩ => quiet call (by simp) time reads
      have never : ¬ call.Reads key time := fun reads => unread ⟨time, reads⟩
      have earlier := ih fun call member => quiet call (by simp [member])
      rw [← List.cons_append, ← List.append_assoc, heldSince_concat, earlier]
      simp only [unread, never, false_and, false_or, List.forall_mem_append, List.mem_singleton,
        forall_eq]
      constructor
      · rintro ⟨⟨rfl, onTime⟩, last⟩
        exact ⟨rfl, onTime, last⟩
      · rintro ⟨rfl, onTime, last⟩
        exact ⟨⟨rfl, onTime⟩, last⟩

namespace Reread

variable {reread : Reread} {poller : Poller}

theorem held_iff : Held reread.calls reread.key ↔
    ∀ call ∈ reread.since, ¬ call.FindsLate reread.seen := by
  simp only [Held, calls, since, heldSince_of_latest reread.typed reread.quiet, exists_eq_left]

theorem latched_eq : reread.latched poller =
    if (reading reread.now reread.codes (after poller reread.calls)).2.staged.has reread.key then
      reread.latchedBefore poller
    else some reread.key := by
  rw [latched, reading_concat, onCode_of_means reread.means]
  rfl

theorem held_reading_iff :
    (reading reread.now reread.codes (after poller reread.calls)).2.staged.has reread.key = true ↔
      ∀ call ∈ reread.since, ¬ call.FindsLate reread.seen := by
  rw [(follows_after poller reread.calls).held_reading_iff, held_iff, or_iff_right reread.first]

theorem latched_of_late (late : ∃ call ∈ reread.since, call.FindsLate reread.seen) :
    reread.latched poller = some reread.key := by
  obtain ⟨call, member, foundLate⟩ := late
  rw [latched_eq, if_neg]
  intro held
  exact held_reading_iff.mp held call member foundLate

theorem latched_of_onTime (onTime : ∀ call ∈ reread.since, ¬ call.FindsLate reread.seen) :
    reread.latched poller = reread.latchedBefore poller := by
  rw [latched_eq, if_pos (held_reading_iff.mpr onTime)]

/-- Whether a code is a fresh press depends on the polls before it, not on the time. -/
theorem pressesIfFoundLate (reread : Reread) (poller : Poller) :
    reread.PressesIfFoundLate poller where
  fresh := latched_of_late
  stale := latched_of_onTime

end Reread

theorem readable_of_means {code : Int} (means : Means code key) :
    Poller.readable [code] = [code] := by
  have byte := means.byte
  have read : code ≠ -1 := by omega
  simp [Poller.readable, read]

def secondApart {code : Int} (means : Means code key) : Reread where
  key
  before := []
  seen := 0
  pending := [code]
  between := [.take]
  now := 1
  latest := [code]
  codes := []
  code
  rest := []
  typed := by
    rw [readable_of_means means]
    exact ⟨code, List.mem_singleton_self code, means⟩
  quiet := by
    rintro call member time ⟨pending, rfl, _⟩
    simp at member
  split := readable_of_means means
  first := not_typed_nil
  means

variable {code : Int}

theorem ordered_secondApart (means : Means code key) : (secondApart means).Ordered := by
  change [(0 : Float), 1].Pairwise (· ≤ ·)
  decide +kernel

theorem latched_secondApart (means : Means code key) (poller : Poller) :
    (secondApart means).latched poller = none := by
  have onTime : ∀ call ∈ (secondApart means).since, ¬ call.FindsLate 0 := by
    intro call member
    rcases List.mem_cons.mp member with rfl | between
    · rw [findsLate_poll_iff]
      change ¬ Poller.holdSeconds < (0 : Float) - 0
      decide +kernel
    · rintro ⟨now, pending, rfl, _⟩
      simp [secondApart] at between
  exact Reread.latched_of_onTime onTime

/-- Without a poll between them the second code is no press, though it comes late. -/
theorem not_pressesWhenLate : ¬ PressesWhenLate := by
  intro always
  have means : Means 113 4 := by decide
  have late : Poller.holdSeconds < (1 : Float) - 0 := by decide +kernel
  have pressed : (secondApart means).latched {} = some 4 :=
    always {} _ (ordered_secondApart means) late
  rw [latched_secondApart] at pressed
  cases pressed

end Chip8.Keyboard
