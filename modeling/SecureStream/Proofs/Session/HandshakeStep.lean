import SecureStream.Proofs.Session.Flush
import Mathlib.Tactic.Common

/-! # One step of a handshake

A step writes if a record waits, and reads only if none does (`StepOn`). `step_eq_iff`: what a step
comes to is one of these. -/

namespace SecureStream.Handshake

variable {σ ε : Type}

/-- **What a step can come to.** -/
inductive StepOn (p : Protocol σ) (io : ByteStream ε) (s : Session σ) (e : ε) :
    Except StreamFault Step × Session σ × ε → Prop
  /-- The stream takes octets. -/
  | writes {n s' e'} (h : s.writeTls io e = (.ok (n + 1), s', e')) :
    StepOn p io s e (.ok .progress, s', e')
  /-- The stream takes none. -/
  | full {s' e'} (hq : s.outbox ≠ []) (h : s.writeTls io e = (.ok 0, s', e')) :
    StepOn p io s e (.error .wantWrite, s', e')
  | writeFails {x s' e'} (h : s.writeTls io e = (.error x, s', e')) :
    StepOn p io s e (.error (.ofIoError x .send), s', e')
  /-- No record waits, and nothing is left to agree on. -/
  | done (hq : s.outbox = []) (hh : p.isHandshaking s.core = false) :
    StepOn p io s e (.ok .done, s, e)
  | ends {s' e'} (hq : s.outbox = []) (hh : p.isHandshaking s.core = true)
    (h : s.readTls p io e = (.ok 0, s', e')) : StepOn p io s e (.error .unexpectedEof, s', e')
  | readFails {x s' e'} (hq : s.outbox = []) (hh : p.isHandshaking s.core = true)
    (h : s.readTls p io e = (.error x, s', e')) :
    StepOn p io s e (.error (.ofIoError x .recv), s', e')
  | works {n s₁ e₁ s₂} (hq : s.outbox = []) (hh : p.isHandshaking s.core = true)
    (h : s.readTls p io e = (.ok (n + 1), s₁, e₁)) (hp : s₁.process p = (.ok (), s₂)) :
    StepOn p io s e (.ok .progress, s₂, e₁)
  /-- The protocol fails, and the first record that it leaves is offered once. -/
  | refuses {n s₁ e₁ x s₂} (hq : s.outbox = []) (hh : p.isHandshaking s.core = true)
    (h : s.readTls p io e = (.ok (n + 1), s₁, e₁)) (hp : s₁.process p = (.error x, s₂)) :
    StepOn p io s e (.error (.tls x), (s₂.writeTls io e₁).2)

variable {p : Protocol σ} {io : ByteStream ε} {s : Session σ} {e : ε}

theorem writeTls_of_empty (h : s.outbox = []) : s.writeTls io e = (.ok 0, s, e) := by
  rw [Session.writeTls, h]

theorem stepOn_step (p : Protocol σ) (io : ByteStream ε) (s : Session σ) (e : ε) :
    StepOn p io s e (step p io s e) := by
  unfold step
  by_cases hw : s.wantsWrite = true
  · have hq : s.outbox ≠ [] := by simpa [Session.wantsWrite] using hw
    rw [if_pos hw]
    rcases h : s.writeTls io e with ⟨x | _ | n, s', e'⟩
    · exact .writeFails h
    · exact .full hq h
    · exact .writes h
  · have hq : s.outbox = [] := Session.wantsWrite_eq_false_iff.mp (Bool.not_eq_true _ ▸ hw)
    rw [if_neg hw]
    by_cases hh : p.isHandshaking s.core = true
    · rw [if_neg (by rw [hh]; decide)]
      rcases h : s.readTls p io e with ⟨x | _ | n, s₁, e₁⟩
      · exact .readFails hq hh h
      · exact .ends hq hh h
      · dsimp only
        rcases hp : s₁.process p with ⟨x | _, s₂⟩
        · dsimp only
          have hr := StepOn.refuses hq hh h hp
          by_cases hw₂ : s₂.wantsWrite = true
          · rw [if_pos hw₂]
            exact hr
          · have hq₂ := Session.wantsWrite_eq_false_iff.mp (Bool.not_eq_true _ ▸ hw₂)
            rw [if_neg hw₂]
            rwa [writeTls_of_empty hq₂] at hr
        · exact .works hq hh h hp
    · rw [Bool.not_eq_true] at hh
      rw [if_pos (by rw [hh]; decide)]
      exact .done hq hh

theorem step_of_stepOn {o : Except StreamFault Step × Session σ × ε} (h : StepOn p io s e o) :
    step p io s e = o := by
  cases h with
  | writes h => rw [step, if_pos (Session.wantsWrite_of_more h), h]
  | full hq h =>
    have hw : s.wantsWrite = true := by simpa [Session.wantsWrite] using hq
    rw [step, if_pos hw, h]
  | writeFails h => rw [step, if_pos (Session.wantsWrite_of_error h), h]
  | done hq hh => simp [step, Session.wantsWrite, hq, hh]
  | ends hq hh h => simp [step, Session.wantsWrite, hq, hh, h]
  | readFails hq hh h => simp [step, Session.wantsWrite, hq, hh, h]
  | works hq hh h hp => simp [step, Session.wantsWrite, hq, hh, h, hp]
  | @refuses n s₁ e₁ x s₂ hq hh h hp =>
    by_cases hq₂ : s₂.outbox = []
    · have hw : s₂.writeTls io e₁ = (.ok 0, s₂, e₁) := writeTls_of_empty hq₂
      simp [step, Session.wantsWrite, hq, hh, h, hp, hq₂, hw]
    · simp [step, Session.wantsWrite, hq, hh, h, hp, hq₂]

/-- **What a step comes to.** -/
theorem step_eq_iff {o : Except StreamFault Step × Session σ × ε} :
    step p io s e = o ↔ StepOn p io s e o := by
  constructor
  · rintro rfl
    exact stepOn_step p io s e
  · exact step_of_stepOn

end SecureStream.Handshake
