import SecureStream.Proofs.Scripted
import SecureStream.StreamFault

/-! # Faults inserted into a script

A script gets a finite number of answers that ask for another try, at any places (`Inserted`).
`Inserted.head` says what the first answer of the longer script is: one of these, or that of the
shorter one. -/

namespace SecureStream

variable {α : Type}

/-- **The second script is the first with `n` answers inserted** that ask for another try. -/
inductive Inserted : ℕ → Stream' (Except IoError α) → Stream' (Except IoError α) → Prop
  | none {s} : Inserted 0 s s
  | keep {n s s'} (a) (h : Inserted n s s') : Inserted n (.cons a s) (.cons a s')
  | fault {n s s'} {x : IoError} (hx : x.kind.isNotReady) (h : Inserted n s s') :
      Inserted (n + 1) s (.cons (.error x) s')

/-- **The first answer** is the same, or it was inserted. -/
theorem Inserted.head {n : ℕ} {s s' : Stream' (Except IoError α)} (h : Inserted n s s') :
    (s'.head = s.head ∧ Inserted n s.tail s'.tail) ∨
      ∃ m x, n = m + 1 ∧ s'.head = .error x ∧ x.kind.isNotReady ∧ Inserted m s s'.tail := by
  cases h with
  | none => exact .inl ⟨rfl, .none⟩
  | keep a h => exact .inl ⟨rfl, h⟩
  | @fault m _ _ x hx h => exact .inr ⟨m, x, rfl, rfl, hx, h⟩

namespace Script

/-- What a receiver has no room for stays in both scripts. -/
theorem inserted_afterRecv {n : ℕ} (limit : ℕ) (b : Bytes) {s s' : Stream' (Except IoError Bytes)}
    (h : Inserted n s s') : Inserted n (afterRecv limit b s) (afterRecv limit b s') := by
  unfold afterRecv
  split
  · exact h
  · exact .keep _ h

/-! ### Answers to a send -/

/-- An answer that takes nothing and asks for another try. -/
def Waits : Except IoError ℕ → Prop
  | .ok n => n = 0
  | .error x => x.kind.isNotReady

/-- An answer that fails for good. -/
def Fails : Except IoError ℕ → Prop
  | .ok _ => False
  | .error x => ¬x.kind.isNotReady

/-- **No answer fails for good behind one that asks for another try.** With a fault inserted the
caller flushes once more; over a script that is not orderly that flush may come to the send that
fails, which the caller would never have met otherwise (`fault_may_surface`). -/
def Orderly (s : Stream' (Except IoError ℕ)) : Prop :=
  ∀ i j, i < j → Waits (s.get i) → ¬Fails (s.get j)

theorem Orderly.tail {s : Stream' (Except IoError ℕ)} (h : Orderly s) : Orderly s.tail :=
  fun i j hij hi => h (i + 1) (j + 1) (by omega) hi

theorem Orderly.not_fails {s : Stream' (Except IoError ℕ)} (h : Orderly s) (hw : Waits s.head)
    (i : ℕ) : ¬Fails (s.tail.get i) :=
  h 0 (i + 1) (by omega) hw

theorem orderly_of_forall {s : Stream' (Except IoError ℕ)} (h : ∀ i, ¬Fails (s.get i)) :
    Orderly s :=
  fun _ j _ _ => h j

end Script

end SecureStream
