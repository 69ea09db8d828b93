import Chip8.Proofs.Opcode.Table

/-!
# The live part of the call stack

The slots below the depth hold the return addresses; what stands in the others is left over.  A
call appends an address to the live part, a return takes the last one off, and no other row of the
table touches it.
-/

namespace Chip8

def View.live (view : View) : List Int := (List.ofFn view.stack).take view.sp.toNat

theorem View.length_live {view : View} (started : 0 ≤ view.sp) (depth : view.sp ≤ 16) :
    (view.live.length : Int) = view.sp := by
  rw [live, List.length_take, List.length_ofFn]
  omega

theorem take_ofFn_succ (slots : Fin 16 → Int) (place : Fin 16) :
    (List.ofFn slots).take (place + 1) = (List.ofFn slots).take place ++ [slots place] := by
  have inside : place.val < (List.ofFn slots).length := by rw [List.length_ofFn]; exact place.isLt
  rw [List.take_succ_eq_append_getElem inside, List.getElem_ofFn]

theorem take_ofFn_update (slots : Fin 16 → Int) (place : Fin 16) (value : Int) :
    (List.ofFn (Function.update slots place value)).take place = (List.ofFn slots).take place := by
  apply List.ext_getElem
  · simp only [List.length_take, List.length_ofFn]
  · intro number inside _
    rw [List.length_take] at inside
    have apart : (⟨number, by omega⟩ : Fin 16) ≠ place := by
      intro same
      have equal := congrArg Fin.val same
      dsimp only at equal
      omega
    rw [List.getElem_take, List.getElem_take, List.getElem_ofFn, List.getElem_ofFn]
    exact Function.update_of_ne apart ..

namespace Form

variable {view : View} {word : Nat} {address : Int}

theorem live_of_call (started : 0 ≤ view.sp) (room : view.sp < 16) :
    ∃ after, call.act word address view = (.ok .none, after) ∧
      after.live = view.live ++ [view.pc] := by
  obtain ⟨count, counted⟩ := Int.eq_ofNat_of_zero_le started
  have inside : count < 16 := by omega
  have vacant : ¬ view.sp = 16 := by omega
  refine ⟨_, by simp only [act, vacant, if_false]; rfl, ?_⟩
  have depth : (view.sp + 1).toNat = count + 1 := by omega
  have shallow : view.sp.toNat = count := by omega
  simp only [View.live, depth, shallow, slotAt_of_lt counted inside]
  rw [take_ofFn_succ _ ⟨count, inside⟩, take_ofFn_update _ ⟨count, inside⟩, Function.update_self]

theorem live_of_return (started : 0 < view.sp) (depth : view.sp ≤ 16) :
    ∃ after, returnFromCall.act word address view = (.ok .none, after) ∧
      view.live = after.live ++ [after.pc] := by
  obtain ⟨count, counted⟩ := Int.eq_succ_of_zero_lt started
  have inside : count < 16 := by omega
  have used : ¬ view.sp = 0 := by omega
  refine ⟨_, by simp only [act, used, if_false]; rfl, ?_⟩
  have shorter : view.sp - 1 = (count : Int) := by omega
  have deep : view.sp.toNat = count + 1 := by omega
  simp only [View.live, deep, slotAt_of_lt shorter inside]
  rw [take_ofFn_succ _ ⟨count, inside⟩, shorter, Int.toNat_natCast]

theorem live_of_other {form : Form} (call : form ≠ call) (back : form ≠ returnFromCall) :
    (form.act word address view).2.live = view.live := by
  cases form with
  | call => exact absurd rfl call
  | returnFromCall => exact absurd rfl back
  | readDelay =>
      simp only [act]
      split <;> rfl
  | skipIfByte | skipUnlessByte | skipIfEqual | skipUnlessEqual | skipIfKey | skipUnlessKey =>
      simp only [act, View.skipIf]
      split <;> rfl
  | _ => rfl

end Form

end Chip8
