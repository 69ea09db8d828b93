import Chip8.Proofs.Keyboard.Codes
import Chip8.Proofs.History
import Mathlib.Data.List.Induction

namespace Chip8.Keyboard

inductive Call where
  | poll (now : Float) (pending : List Int)
  | capture
  | take

namespace Call

def perform (state : Poller × Keypad) : Call → Poller × Keypad
  | .poll now pending => state.1.poll state.2 now (Poller.readable pending)
  | .capture => (state.1, state.2.capture)
  | .take => (state.1, state.2.take.2)

/-- A poll at some time reads a code of a key. -/
def Reads (call : Call) (key : Fin 16) (time : Float) : Prop :=
  ∃ pending, call = .poll time pending ∧ Typed (Poller.readable pending) key

/-- A poll finds that too much time has passed since `seen`. -/
def FindsLate (call : Call) (seen : Float) : Prop :=
  ∃ now pending, call = .poll now pending ∧ Poller.holdSeconds < now - seen

end Call

/-- What a poller that has not polled yet and a fresh keypad are after some calls. -/
def after (poller : Poller) (calls : List Call) : Poller × Keypad :=
  calls.foldl Call.perform ({ poller with lastSeen := [], quit := false }, {})

/-- The latest poll that read a key was at some time, and neither it nor a later poll finds that too
long ago. -/
def HeldSince (calls : List Call) (key : Fin 16) (seen : Float) : Prop :=
  Since (fun _ call => call.Reads key seen ∧ ¬ call.FindsLate seen)
    (fun _ call => (∃ time, call.Reads key time) ∨ call.FindsLate seen) calls

def Held (calls : List Call) (key : Fin 16) : Prop := ∃ seen, HeldSince calls key seen

/-- A poller and its keypad are as some calls leave them, and they go on from there. -/
structure HoldsWhileSeen (poller : Poller) (calls : List Call) : Prop where
  nodup : ((after poller calls).1.lastSeen.map Prod.fst).Nodup
  inStep (key : Fin 16) : key ∈ (after poller calls).1.lastSeen.map Prod.fst ↔
    (after poller calls).2.staged.has key = true
  held (key : Fin 16) : (after poller calls).2.staged.has key = true ↔ Held calls key
  quit : (after poller calls).1.quit = true ↔
    ∃ now pending, .poll now pending ∈ calls ∧ escapeCode ∈ Poller.readable pending
  /-- In the midst of a poll the keys that it has read are held, too. -/
  midway (now : Float) (codes : List Int) (key : Fin 16) :
    (reading now codes (after poller calls)).2.staged.has key = true ↔
      Typed codes key ∨ Held calls key
  /-- A press is latched if its key was not held just before. -/
  press (now : Float) (codes : List Int) {code : Int} {key : Fin 16} (means : Means code key) :
    (reading now (codes ++ [code]) (after poller calls)).2.pressed =
      if (reading now codes (after poller calls)).2.staged.has key then
        (reading now codes (after poller calls)).2.pressed
      else some key
  foreign (now : Float) (codes : List Int) {code : Int} (other : code ≠ escapeCode)
    (foreign : ∀ key, ¬ Means code key) :
    reading now (codes ++ [code]) (after poller calls) = reading now codes (after poller calls)
  wide {code : Int} (wide : code < 0 ∨ 255 < code) :
    code ≠ escapeCode ∧ ∀ key, ¬ Means code key
  escape (now : Float) (codes : List Int) :
    reading now (codes ++ [escapeCode]) (after poller calls) =
      ({ (reading now codes (after poller calls)).1 with quit := true },
        (reading now codes (after poller calls)).2)

variable {poller : Poller} {calls : List Call} {call : Call} {state : Poller × Keypad}
  {now seen time : Float} {pending codes : List Int} {code : Int} {key : Fin 16}

theorem after_concat :
    after poller (calls ++ [call]) = call.perform (after poller calls) := by
  rw [after, List.foldl_append]
  rfl

theorem perform_poll : Call.perform state (.poll now pending) =
    Poller.expire now (reading now (Poller.readable pending) state) := rfl

theorem reads_poll_iff :
    (Call.poll now pending).Reads key time ↔ now = time ∧ Typed (Poller.readable pending) key := by
  constructor
  · rintro ⟨_, same, typed⟩
    cases same
    exact ⟨rfl, typed⟩
  · rintro ⟨rfl, typed⟩
    exact ⟨pending, rfl, typed⟩

theorem findsLate_poll_iff :
    (Call.poll now pending).FindsLate seen ↔ Poller.holdSeconds < now - seen := by
  constructor
  · rintro ⟨_, _, same, late⟩
    cases same
    exact late
  · intro late
    exact ⟨now, pending, rfl, late⟩

theorem heldSince_concat : HeldSince (calls ++ [call]) key seen ↔
    (call.Reads key seen ∧ ¬ call.FindsLate seen) ∨
      HeldSince calls key seen ∧ ¬ ((∃ time, call.Reads key time) ∨ call.FindsLate seen) :=
  Since.concat_iff

theorem not_heldSince_nil : ¬ HeldSince [] key seen := Since.not_nil

/-- A call that is no poll lets every key be held as before. -/
theorem heldSince_concat_of_not_poll (rest : ∀ now pending, call ≠ .poll now pending) :
    HeldSince (calls ++ [call]) key seen ↔ HeldSince calls key seen := by
  have unread (time : Float) : ¬ call.Reads key time := fun ⟨_, same, _⟩ => rest _ _ same
  have onTime : ¬ call.FindsLate seen := fun ⟨_, _, same, _⟩ => rest _ _ same
  simp only [heldSince_concat, unread, onTime, exists_false, false_or, or_self,
    not_false_eq_true, and_true]

theorem heldSince_concat_poll : HeldSince (calls ++ [.poll now pending]) key seen ↔
    (Typed (Poller.readable pending) key ∧ seen = now ∨
      ¬ Typed (Poller.readable pending) key ∧ HeldSince calls key seen) ∧
        ¬ Poller.holdSeconds < now - seen := by
  have again : (∃ time, (Call.poll now pending).Reads key time) ↔
      Typed (Poller.readable pending) key := by
    simp [reads_poll_iff]
  rw [heldSince_concat, again, reads_poll_iff, findsLate_poll_iff, eq_comm (a := now)]
  tauto

structure Follows (calls : List Call) (state : Poller × Keypad) : Prop where
  synced : Synced state
  noted (key : Fin 16) (seen : Float) :
    (key, seen) ∈ state.1.lastSeen ↔ HeldSince calls key seen
  quit : state.1.quit = true ↔
    ∃ now pending, .poll now pending ∈ calls ∧ escapeCode ∈ Poller.readable pending

namespace Follows

theorem nil (poller : Poller) : Follows [] ({ poller with lastSeen := [], quit := false }, {}) where
  synced := ⟨List.nodup_nil, fun key => by simp [KeySet.has]⟩
  noted key seen := by simp [not_heldSince_nil]
  quit := by simp

theorem poll (follows : Follows calls state) (now : Float) (pending : List Int) :
    Follows (calls ++ [.poll now pending]) (Call.perform state (.poll now pending)) where
  synced := follows.synced.reading.expire
  noted key seen := by
    rw [perform_poll, mem_expire, mem_reading follows.synced, follows.noted,
      heldSince_concat_poll]
  quit := by
    rw [perform_poll, quit_expire, quit_reading, follows.quit]
    simp only [List.mem_append, List.mem_singleton, Call.poll.injEq]
    constructor
    · rintro (⟨time, codes, member, escape⟩ | escape)
      · exact ⟨time, codes, Or.inl member, escape⟩
      · exact ⟨now, pending, Or.inr ⟨rfl, rfl⟩, escape⟩
    · rintro ⟨time, codes, member | ⟨rfl, rfl⟩, escape⟩
      · exact Or.inl ⟨time, codes, member, escape⟩
      · exact Or.inr escape

/-- Reading the keypad in another way than by its staged keys leaves the poller out of it. -/
theorem aside (follows : Follows calls state) {keypad : Keypad}
    (staged : keypad.staged = state.2.staged) (rest : ∀ now pending, call ≠ .poll now pending) :
    Follows (calls ++ [call]) (state.1, keypad) where
  synced := ⟨follows.synced.nodup, fun key => by rw [staged, follows.synced.staged]⟩
  noted key seen := (follows.noted key seen).trans (heldSince_concat_of_not_poll rest).symm
  quit := by
    simp only [follows.quit, List.mem_append, List.mem_singleton, (rest _ _).symm, or_false]

theorem perform (follows : Follows calls state) (call : Call) :
    Follows (calls ++ [call]) (call.perform state) := by
  cases call with
  | poll now pending => exact follows.poll now pending
  | capture => exact follows.aside rfl (by simp)
  | take => exact follows.aside rfl (by simp)

theorem held_iff (follows : Follows calls state) :
    state.2.staged.has key = true ↔ Held calls key := by
  simp only [follows.synced.staged, follows.noted, Held]

theorem held_reading_iff (follows : Follows calls state) :
    (reading now codes state).2.staged.has key = true ↔ Typed codes key ∨ Held calls key := by
  simp only [follows.synced.reading.staged, mem_reading follows.synced, follows.noted, Held]
  by_cases typed : Typed codes key
  · simp [typed]
  · simp [typed]

end Follows

theorem follows_after (poller : Poller) (calls : List Call) :
    Follows calls (after poller calls) := by
  induction calls using List.reverseRecOn with
  | nil => exact .nil poller
  | append_singleton calls call ih =>
      rw [after_concat]
      exact ih.perform call

theorem reading_concat : reading now (codes ++ [code]) state =
    Poller.onCode now (reading now codes state) code := by
  rw [reading, List.foldl_append]
  rfl

theorem holdsWhileSeen (poller : Poller) (calls : List Call) : HoldsWhileSeen poller calls := by
  have follows := follows_after poller calls
  refine
    { nodup := follows.synced.nodup
      inStep := fun key => ?_
      held := fun key => follows.held_iff
      quit := follows.quit
      midway := fun now codes key => follows.held_reading_iff
      press := ?_
      foreign := ?_
      wide := ?_
      escape := ?_ }
  · rw [follows.synced.staged]
    simp
  · intro now codes code key means
    rw [reading_concat, onCode_of_means means]
    rfl
  · intro now codes code other foreign
    rw [reading_concat, onCode_of_foreign other foreign]
  · intro code wide
    refine ⟨?_, fun key means => ?_⟩
    · rw [escapeCode]
      omega
    · have byte := means.byte
      omega
  · intro now codes
    rw [reading_concat]
    rfl

end Chip8.Keyboard
