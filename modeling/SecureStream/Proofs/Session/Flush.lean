import SecureStream.Proofs.Session.Fault
import SecureStream.Session.Handshake

/-! # What a flush leaves alone

A flush moves records from the queue to the stream and does nothing else: `flush_frame` says that
the session is the same but for its queue, and `outbox_flush_of_ok` that a flush that went well
empties the queue. It does not look at the protocol, and a stream that keeps more than another and
does the same with the rest (`ByteStream.Projects`) is flushed alike (`flush_project`).

What every read and every write of a stream keeps (`ByteStream.Keeps`), a flush keeps
(`flush_keeps`), and so does a whole handshake (`drive_keeps`). -/

namespace SecureStream

variable {σ τ ε δ : Type}

/-! ### What streams and clocks keep -/

/-- **What every use of a stream keeps**: a relation of the environment before to the one after. -/
structure ByteStream.Keeps (io : ByteStream ε) (R : ε → ε → Prop) : Prop where
  refl : ∀ e, R e e
  trans : ∀ {e f g}, R e f → R f g → R e g
  read : ∀ limit e, R e (io.read limit e).2
  write : ∀ b e, R e (io.write b e).2

/-- What looking at a clock and pausing keep. -/
structure Clock.Keeps (clock : Clock ε) (R : ε → ε → Prop) : Prop where
  now : ∀ e, R e (clock.now e).2
  sleep : ∀ d e, R e (clock.sleep d e)

theorem ByteStream.Keeps.normalised {io : ByteStream ε} {R : ε → ε → Prop} (h : io.Keeps R) :
    io.normalised.Keeps R :=
  ⟨h.refl, h.trans, h.read, h.write⟩

/-- **`io'` does what `io` does**, in environments that `F` brings to those of `io`. -/
structure ByteStream.Projects (F : δ → ε) (io' : ByteStream δ) (io : ByteStream ε) : Prop where
  read : ∀ limit e, io.read limit (F e) = ((io'.read limit e).1, F (io'.read limit e).2)
  write : ∀ b e, io.write b (F e) = ((io'.write b e).1, F (io'.write b e).2)

theorem ByteStream.Projects.refl (io : ByteStream ε) : io.Projects id io :=
  ⟨fun _ _ => rfl, fun _ _ => rfl⟩

theorem ByteStream.Projects.normalised {F : δ → ε} {io' : ByteStream δ} {io : ByteStream ε}
    (h : io'.Projects F io) : io'.normalised.Projects F io.normalised where
  read limit e := by simp only [ByteStream.normalised, h.read]
  write b e := by simp only [ByteStream.normalised, h.write]

namespace Session

/-- The session with its protocol state replaced. -/
def mapCore (f : σ → τ) (s : Session σ) : Session τ :=
  ⟨f s.core, s.outbox, s.inbox, s.closed, s.ended, s.failure⟩

@[simp] theorem outbox_mapCore (f : σ → τ) (s : Session σ) : (s.mapCore f).outbox = s.outbox := rfl

/-! ### Writing one record -/

theorem writeTls_frame (io : ByteStream ε) (s : Session σ) (e : ε) :
    (s.writeTls io e).2.1 = { s with outbox := (s.writeTls io e).2.1.outbox } := by
  unfold writeTls
  split
  · rfl
  · split
    · rfl
    · split <;> rfl

theorem writeTls_keeps {io : ByteStream ε} {R : ε → ε → Prop} (h : io.Keeps R) (s : Session σ)
    (e : ε) : R e (s.writeTls io e).2.2 := by
  unfold writeTls
  split
  · exact h.refl e
  · next record rest _ =>
    have hw := h.write record e
    split
    · next he => rw [he] at hw; exact hw
    · next he =>
      rw [he] at hw
      split <;> exact hw

theorem writeTls_project {F : δ → ε} {io' : ByteStream δ} {io : ByteStream ε}
    (h : io'.Projects F io) (f : σ → τ) (s : Session σ) (e : δ) :
    (s.mapCore f).writeTls io (F e) =
      ((s.writeTls io' e).1, (s.writeTls io' e).2.1.mapCore f, F (s.writeTls io' e).2.2) := by
  unfold writeTls
  cases hq : s.outbox with
  | nil => simp [mapCore, hq]
  | cons record rest =>
    have hp : (s.mapCore f).pending = s.pending := rfl
    simp only [outbox_mapCore, hq, hp, h.write]
    rcases io'.write record e with ⟨x | n, e₁⟩
    · rfl
    · dsimp only
      split <;> rfl

/-! ### Flushing -/

theorem wantsWrite_eq_false_iff {s : Session σ} : s.wantsWrite = false ↔ s.outbox = [] := by
  simp [wantsWrite]

theorem wantsWrite_of_error {io : ByteStream ε} {s s' : Session σ} {e e' : ε} {x : IoError}
    (h : s.writeTls io e = (.error x, s', e')) : s.wantsWrite = true := by
  by_contra hw
  rw [Bool.not_eq_true, wantsWrite_eq_false_iff] at hw
  simp [writeTls, hw] at h

theorem wantsWrite_of_more {io : ByteStream ε} {s s' : Session σ} {e e' : ε} {n : ℕ}
    (h : s.writeTls io e = (.ok (n + 1), s', e')) : s.wantsWrite = true := by
  by_contra hw
  rw [Bool.not_eq_true, wantsWrite_eq_false_iff] at hw
  simp [writeTls, hw] at h

theorem flush_of_empty {io : ByteStream ε} {s : Session σ} {e : ε} (h : s.outbox = []) :
    s.flush io e = (.ok (), s, e) := by
  rw [flush, if_neg (by rw [wantsWrite_eq_false_iff.mpr h]; exact Bool.false_ne_true)]

theorem flush_of_error {io : ByteStream ε} {s s' : Session σ} {e e' : ε} {x : IoError}
    (h : s.writeTls io e = (.error x, s', e')) :
    s.flush io e = (.error (.ofIoError x .send), s', e') := by
  rw [flush, if_pos (wantsWrite_of_error h)]
  split <;> next he => rw [h] at he; simp_all

theorem flush_of_zero {io : ByteStream ε} {s s' : Session σ} {e e' : ε} (hw : s.outbox ≠ [])
    (h : s.writeTls io e = (.ok 0, s', e')) : s.flush io e = (.error .wantWrite, s', e') := by
  rw [flush, if_pos (by simpa [wantsWrite] using hw)]
  split <;> next he => rw [h] at he; simp_all

theorem flush_of_more {io : ByteStream ε} {s s' : Session σ} {e e' : ε} {n : ℕ}
    (h : s.writeTls io e = (.ok (n + 1), s', e')) : s.flush io e = s'.flush io e' := by
  rw [flush, if_pos (wantsWrite_of_more h)]
  split <;> next he => rw [h] at he; simp_all

/-- **A flush changes nothing but the queue.** -/
theorem flush_frame (io : ByteStream ε) (s : Session σ) (e : ε) :
    (s.flush io e).2.1 = { s with outbox := (s.flush io e).2.1.outbox } := by
  have step {s s' : Session σ} {e e' : ε} {r : Except IoError Nat}
      (h : s.writeTls io e = (r, s', e')) : s' = { s with outbox := s'.outbox } := by
    have := writeTls_frame io s e
    rw [h] at this; exact this
  fun_induction flush io s e with
  | case1 s e _ x s' e' h => exact step h
  | case2 s e _ s' e' h => exact step h
  | case3 s e _ n s' e' h ih => rw [ih, step h]
  | case4 s e _ => rfl

theorem frame_of_flush {io : ByteStream ε} {s s' : Session σ} {e e' : ε}
    {r : Except StreamFault Unit} (h : s.flush io e = (r, s', e')) :
    s' = { s with outbox := s'.outbox } := by
  have := flush_frame io s e
  rwa [h] at this

theorem core_of_flush {io : ByteStream ε} {s s' : Session σ} {e e' : ε}
    {r : Except StreamFault Unit} (h : s.flush io e = (r, s', e')) : s'.core = s.core := by
  rw [frame_of_flush h]

theorem inbox_of_flush {io : ByteStream ε} {s s' : Session σ} {e e' : ε}
    {r : Except StreamFault Unit} (h : s.flush io e = (r, s', e')) : s'.inbox = s.inbox := by
  rw [frame_of_flush h]

theorem flush_keeps {io : ByteStream ε} {R : ε → ε → Prop} (h : io.Keeps R) (s : Session σ)
    (e : ε) : R e (s.flush io e).2.2 := by
  have step {s s' : Session σ} {e e' : ε} {r : Except IoError Nat}
      (hw : s.writeTls io e = (r, s', e')) : R e e' := by
    have := writeTls_keeps h s e
    rw [hw] at this; exact this
  fun_induction flush io s e with
  | case1 s e _ x s' e' hw => exact step hw
  | case2 s e _ s' e' hw => exact step hw
  | case3 s e _ n s' e' hw ih => exact h.trans (step hw) ih
  | case4 s e _ => exact h.refl e

theorem outbox_flush_of_ok {io : ByteStream ε} {s t : Session σ} {e e' : ε}
    (h : s.flush io e = (.ok (), t, e')) : t.outbox = [] := by
  fun_induction flush io s e with
  | case1 s e _ x s' e₁ _ => simp at h
  | case2 s e _ s' e₁ _ => simp at h
  | case3 s e _ n s' e₁ _ ih => exact ih h
  | case4 s e hw =>
    simp only [Prod.mk.injEq, true_and] at h
    obtain ⟨rfl, -⟩ := h
    simpa [wantsWrite] using hw

/-- **Streams that do the same are flushed alike**, whatever the protocol. -/
theorem flush_project {F : δ → ε} {io' : ByteStream δ} {io : ByteStream ε} (h : io'.Projects F io)
    (f : σ → τ) (s : Session σ) (e : δ) :
    (s.mapCore f).flush io (F e) =
      ((s.flush io' e).1, (s.flush io' e).2.1.mapCore f, F (s.flush io' e).2.2) := by
  have hm {s s' : Session σ} {e e' : δ} {r : Except IoError Nat}
      (hw : s.writeTls io' e = (r, s', e')) :
      (s.mapCore f).writeTls io (F e) = (r, s'.mapCore f, F e') := by
    rw [writeTls_project h, hw]
  fun_induction flush io' s e with
  | case1 s e hw x s' e' h => exact flush_of_error (hm h)
  | case2 s e hw s' e' h =>
    exact flush_of_zero (s := s.mapCore f) (by simpa [wantsWrite] using hw) (hm h)
  | case3 s e hw n s' e' h ih => rw [flush_of_more (hm h), ih]
  | case4 s e hw =>
    exact flush_of_empty (s := s.mapCore f) (by simpa [wantsWrite] using hw)

/-! ### Reading -/

theorem readTls_keeps {io : ByteStream ε} {R : ε → ε → Prop} (h : io.Keeps R) (p : Protocol σ)
    (s : Session σ) (e : ε) : R e (s.readTls p io e).2.2 := by
  unfold readTls
  split
  · exact h.refl e
  · split
    · exact h.refl e
    · next limit core _ =>
      have hr := h.read limit e
      split <;> next he => rw [he] at hr; exact hr

end Session

/-! ### Handshakes -/

namespace Handshake

theorem step_keeps {io : ByteStream ε} {R : ε → ε → Prop} (h : io.Keeps R) (p : Protocol σ)
    (s : Session σ) (e : ε) : R e (step p io s e).2.2 := by
  have hw := Session.writeTls_keeps h s e
  have hr := Session.readTls_keeps h p s e
  unfold step
  split
  · split <;> next he => rw [he] at hw; exact hw
  · split
    · exact h.refl e
    · split
      · next he => rw [he] at hr; exact hr
      · next he => rw [he] at hr; exact hr
      · next s₁ e₁ he =>
        rw [he] at hr
        split
        · exact hr
        · next x s₂ _ =>
          split
          -- the record that is left is offered once
          · exact h.trans hr (Session.writeTls_keeps h s₂ e₁)
          · exact hr

theorem driveFrom_keeps {io : ByteStream ε} {clock : Clock ε} {R : ε → ε → Prop} (h : io.Keeps R)
    (hc : clock.Keeps R) {p : Protocol σ} {budget : Option Duration} {started fuel : ℕ}
    {steps retries pause : ℕ} {s : Session σ} {e : ε} {o : Outcome σ ε}
    (ho : driveFrom p io clock budget started fuel steps retries pause s e = some o) :
    R e o.2.2 := by
  induction fuel generalizing steps retries pause s e with
  | zero => simp [driveFrom] at ho
  | succ fuel ih =>
    have hs := step_keeps h p s e
    rw [driveFrom] at ho
    split at ho
    · next s₁ e₁ he =>
      rw [he] at hs
      simp only [Option.some.injEq] at ho
      subst ho
      exact h.trans hs (hc.now e₁)
    · next s₁ e₁ he =>
      rw [he] at hs
      exact h.trans hs (ih ho)
    · next f s₁ e₁ he =>
      rw [he] at hs
      split at ho
      · split at ho
        · exact h.trans hs (h.trans (hc.sleep _ e₁) (ih ho))
        · dsimp only at ho
          have hn := h.trans hs (hc.now e₁)
          split at ho
          · simp only [Option.some.injEq] at ho
            subst ho
            exact hn
          · exact h.trans hn (h.trans (hc.sleep _ _) (ih ho))
      · simp only [Option.some.injEq] at ho
        subst ho
        exact hs

theorem drive_keeps {io : ByteStream ε} {clock : Clock ε} {R : ε → ε → Prop} (h : io.Keeps R)
    (hc : clock.Keeps R) {p : Protocol σ} {budget : Option Duration} {fuel : ℕ} {s : Session σ}
    {e : ε} {o : Outcome σ ε} (ho : drive p io clock budget fuel s e = some o) : R e o.2.2 :=
  h.trans (hc.now e) (driveFrom_keeps h hc ho)

end Handshake

end SecureStream
