import Chip8.Keyboard.Poller
import Mathlib.Data.List.Nodup

namespace Chip8.Keyboard

def Means (code : Int) (key : Fin 16) : Prop :=
  ∃ entry ∈ layout, entry.2 = key ∧ (code = entry.1.toNat ∨ code = entry.1.toUpper.toNat)

instance (code : Int) (key : Fin 16) : Decidable (Means code key) :=
  inferInstanceAs (Decidable (∃ entry ∈ layout, _))

variable {state : Poller × Keypad} {now seen : Float} {code : Int} {codes : List Int}
  {key other : Fin 16} {table : List (Fin 16 × Float)}

theorem means_of_byte :
    ∀ code : Fin 256, ∀ key ∈ Poller.keyOfCode? code, Means code key := by
  decide +kernel

theorem keyOfCode?_of_layout : ∀ entry ∈ layout,
    Poller.keyOfCode? entry.1.toNat = some entry.2 ∧
      Poller.keyOfCode? entry.1.toUpper.toNat = some entry.2 := by
  decide +kernel

theorem keyOfCode?_eq_some_iff_means : Poller.keyOfCode? code = some key ↔ Means code key := by
  constructor
  · intro found
    have inside : 0 ≤ code ∧ code < 256 := by
      by_contra outside
      rw [Poller.keyOfCode?, if_neg outside] at found
      cases found
    obtain ⟨number, rfl⟩ := Int.eq_ofNat_of_zero_le inside.1
    exact means_of_byte ⟨number, by omega⟩ key found
  · rintro ⟨entry, member, rfl, rfl | rfl⟩
    · exact (keyOfCode?_of_layout entry member).1
    · exact (keyOfCode?_of_layout entry member).2

theorem Means.unique (means : Means code key) (means' : Means code other) : key = other := by
  rw [← keyOfCode?_eq_some_iff_means] at means means'
  exact Option.some.inj (means.symm.trans means')

theorem Means.iff_eq (means : Means code key) : Means code other ↔ key = other :=
  ⟨means.unique, fun same => same ▸ means⟩

theorem Means.byte (means : Means code key) : 0 ≤ code ∧ code ≤ 255 := by
  rw [← keyOfCode?_eq_some_iff_means, Poller.keyOfCode?] at means
  split at means
  · omega
  · cases means

theorem not_means_escape : ∀ key, ¬ Means escapeCode key := by
  decide

theorem mem_see_iff {time : Float} (nodup : (table.map Prod.fst).Nodup) :
    (other, time) ∈ Poller.see table key now ↔
      key = other ∧ time = now ∨ key ≠ other ∧ (other, time) ∈ table := by
  induction table with
  | nil => simp [Poller.see, eq_comm]
  | cons entry rest ih =>
      obtain ⟨first, noted⟩ := entry
      obtain ⟨absent, nodup⟩ := List.nodup_cons.mp nodup
      by_cases same : first = key
      · -- The note that is overwritten is the only one of its key.
        subst same
        have gone : (first, time) ∉ rest := fun member =>
          absent (List.mem_map.mpr ⟨(first, time), member, rfl⟩)
        rw [Poller.see, if_pos rfl, List.mem_cons, List.mem_cons]
        by_cases here : first = other
        · subst here
          simp [gone]
        · simp [here, Ne.symm here]
      · rw [Poller.see, if_neg same, List.mem_cons, List.mem_cons, ih nodup]
        by_cases here : key = other
        · subst here
          simp [Ne.symm same]
        · simp [here]

theorem mem_keys_see : other ∈ (Poller.see table key now).map Prod.fst ↔
    key = other ∨ other ∈ table.map Prod.fst := by
  induction table with
  | nil => simp [Poller.see, eq_comm]
  | cons entry rest ih =>
      obtain ⟨first, noted⟩ := entry
      by_cases same : first = key
      · subst same
        simp only [Poller.see, if_true, List.map_cons, List.mem_cons]
        tauto
      · simp only [Poller.see, if_neg same, List.map_cons, List.mem_cons, ih]
        tauto

theorem nodup_see (nodup : (table.map Prod.fst).Nodup) :
    ((Poller.see table key now).map Prod.fst).Nodup := by
  induction table with
  | nil => simp [Poller.see]
  | cons entry rest ih =>
      obtain ⟨first, noted⟩ := entry
      obtain ⟨absent, restNodup⟩ := List.nodup_cons.mp nodup
      by_cases same : first = key
      · subst same
        rw [Poller.see, if_pos rfl]
        exact nodup
      · rw [Poller.see, if_neg same, List.map_cons, List.nodup_cons]
        refine ⟨?_, ih restNodup⟩
        rw [mem_keys_see]
        rintro (new | old)
        · exact same new.symm
        · exact absent old

/-- All that reading a code can do. -/
theorem onCode_cases (now : Float) (state : Poller × Keypad) (code : Int) :
    (∃ key, Means code key ∧ Poller.onCode now state code =
      ({ state.1 with lastSeen := Poller.see state.1.lastSeen key now }, state.2.press key)) ∨
    (code = escapeCode ∧ Poller.onCode now state code = ({ state.1 with quit := true }, state.2)) ∨
    (code ≠ escapeCode ∧ (∀ key, ¬ Means code key) ∧ Poller.onCode now state code = state) := by
  by_cases escape : code = escapeCode
  · exact Or.inr (Or.inl ⟨escape, by rw [Poller.onCode, if_pos escape]⟩)
  · cases named : Poller.keyOfCode? code with
    | none =>
        refine Or.inr (Or.inr ⟨escape, ?_, ?_⟩)
        · intro key means
          rw [← keyOfCode?_eq_some_iff_means, named] at means
          cases means
        · simp only [Poller.onCode, if_neg escape, named]
    | some key =>
        refine Or.inl ⟨key, keyOfCode?_eq_some_iff_means.mp named, ?_⟩
        simp only [Poller.onCode, if_neg escape, named]

theorem onCode_of_means (means : Means code key) : Poller.onCode now state code =
    ({ state.1 with lastSeen := Poller.see state.1.lastSeen key now }, state.2.press key) := by
  obtain ⟨named, means', read⟩ | ⟨rfl, _⟩ | ⟨_, foreign, _⟩ := onCode_cases now state code
  · rwa [means'.unique means] at read
  · exact absurd means (not_means_escape key)
  · exact absurd means (foreign key)

theorem onCode_of_foreign (other : code ≠ escapeCode) (foreign : ∀ key, ¬ Means code key) :
    Poller.onCode now state code = state := by
  obtain ⟨key, means, _⟩ | ⟨escape, _⟩ | ⟨_, _, read⟩ := onCode_cases now state code
  · exact absurd means (foreign key)
  · exact absurd escape other
  · exact read

theorem quit_onCode : (Poller.onCode now state code).1.quit = true ↔
    state.1.quit = true ∨ code = escapeCode := by
  obtain ⟨key, means, read⟩ | ⟨rfl, read⟩ | ⟨other, _, read⟩ := onCode_cases now state code
  · have other : code ≠ escapeCode := by
      rintro rfl
      exact not_means_escape key means
    simp [read, other]
  · simp [read]
  · simp [read, other]

def Typed (codes : List Int) (key : Fin 16) : Prop := ∃ code ∈ codes, Means code key

theorem not_typed_nil : ¬ Typed [] key := by
  simp [Typed]

theorem typed_cons : Typed (code :: codes) key ↔ Means code key ∨ Typed codes key := by
  simp [Typed]

/-- The keys that were noted, each once, are the staged ones. -/
structure Synced (state : Poller × Keypad) : Prop where
  nodup : (state.1.lastSeen.map Prod.fst).Nodup
  staged (key : Fin 16) :
    state.2.staged.has key = true ↔ ∃ seen, (key, seen) ∈ state.1.lastSeen

/-- What some codes leave behind that a poll reads which began at some time. -/
def reading (now : Float) (codes : List Int) (state : Poller × Keypad) : Poller × Keypad :=
  codes.foldl (Poller.onCode now) state

theorem mem_onCode (synced : Synced state) :
    (key, seen) ∈ (Poller.onCode now state code).1.lastSeen ↔
      Means code key ∧ seen = now ∨ ¬ Means code key ∧ (key, seen) ∈ state.1.lastSeen := by
  obtain ⟨named, means, read⟩ | ⟨rfl, read⟩ | ⟨_, foreign, read⟩ := onCode_cases now state code
  · rw [read, mem_see_iff synced.nodup, means.iff_eq]
  · simp [read, not_means_escape key]
  · simp [read, foreign key]

theorem Synced.onCode (synced : Synced state) : Synced (Poller.onCode now state code) := by
  have noted (key : Fin 16) (seen : Float) :
      (key, seen) ∈ (Poller.onCode now state code).1.lastSeen ↔
        Means code key ∧ seen = now ∨ ¬ Means code key ∧ (key, seen) ∈ state.1.lastSeen :=
    mem_onCode synced
  obtain ⟨named, means, read⟩ | ⟨_, read⟩ | ⟨_, _, read⟩ := onCode_cases now state code
  · rw [read] at noted ⊢
    refine ⟨nodup_see synced.nodup, fun key => ?_⟩
    rw [Keypad.has_press, Bool.or_eq_true, decide_eq_true_iff, synced.staged]
    simp only [noted, means.iff_eq]
    by_cases same : named = key
    · simp [same]
    · simp [same]
  · rw [read]
    exact ⟨synced.nodup, synced.staged⟩
  · rwa [read]

theorem Synced.reading (synced : Synced state) : Synced (reading now codes state) := by
  induction codes generalizing state with
  | nil => exact synced
  | cons code rest ih => exact ih synced.onCode

theorem mem_reading (synced : Synced state) : (key, seen) ∈ (reading now codes state).1.lastSeen ↔
    Typed codes key ∧ seen = now ∨ ¬ Typed codes key ∧ (key, seen) ∈ state.1.lastSeen := by
  induction codes generalizing state with
  | nil => simp [reading, not_typed_nil]
  | cons code rest ih =>
      refine (ih synced.onCode).trans ?_
      rw [mem_onCode synced, typed_cons]
      tauto

theorem quit_reading : (reading now codes state).1.quit = true ↔
    state.1.quit = true ∨ escapeCode ∈ codes := by
  induction codes generalizing state with
  | nil => simp [reading]
  | cons code rest ih =>
      refine ih.trans ?_
      rw [quit_onCode, List.mem_cons, or_assoc, eq_comm (a := code)]

/-- Releasing keys keeps the notes that are not too old. -/
theorem mem_expire : (key, seen) ∈ (Poller.expire now state).1.lastSeen ↔
    (key, seen) ∈ state.1.lastSeen ∧ ¬ Poller.holdSeconds < now - seen := by
  simp [Poller.expire, Poller.expired, List.partition_eq_filter_filter]

theorem has_releases {gone : List (Fin 16 × Float)} {keypad : Keypad} :
    (gone.foldl (fun keypad entry => keypad.release entry.1) keypad).staged.has key = true ↔
      keypad.staged.has key = true ∧ ∀ entry ∈ gone, entry.1 ≠ key := by
  induction gone generalizing keypad with
  | nil => simp
  | cons entry rest ih =>
      rw [List.foldl_cons, ih, Keypad.has_release, Bool.and_eq_true, Bool.not_eq_true',
        decide_eq_false_iff_not, List.forall_mem_cons, and_assoc]

theorem Synced.expire (synced : Synced state) : Synced (Poller.expire now state) := by
  have noted (key : Fin 16) (seen : Float) :
      (key, seen) ∈ (Poller.expire now state).1.lastSeen ↔
        (key, seen) ∈ state.1.lastSeen ∧ ¬ Poller.holdSeconds < now - seen := mem_expire
  refine ⟨?_, fun key => ?_⟩
  · have kept : (Poller.expire now state).1.lastSeen.Sublist state.1.lastSeen := by
      simp only [Poller.expire, List.partition_eq_filter_filter]
      exact List.filter_sublist
    exact (kept.map Prod.fst).nodup synced.nodup
  · have staged : (Poller.expire now state).2.staged.has key = true ↔
        state.2.staged.has key = true ∧
          ∀ entry ∈ state.1.lastSeen, Poller.expired now entry.2 = true → entry.1 ≠ key := by
      simp only [Poller.expire, List.partition_eq_filter_filter, has_releases, List.mem_filter,
        and_imp]
    simp only [staged, noted, synced.staged]
    constructor
    · rintro ⟨⟨seen, member⟩, kept⟩
      exact ⟨seen, member, fun late => kept (key, seen) member (decide_eq_true late) rfl⟩
    · rintro ⟨seen, member, fresh⟩
      refine ⟨⟨seen, member⟩, ?_⟩
      rintro ⟨_, noted⟩ present late rfl
      have same := List.inj_on_of_nodup_map synced.nodup present member rfl
      cases same
      exact fresh (of_decide_eq_true late)

theorem quit_expire : (Poller.expire now state).1.quit = state.1.quit := rfl

end Chip8.Keyboard
