import SecureStream.Session.ByteStream
import Mathlib.Tactic.Common

/-! # What the kind of an error says

A fault keeps what the kind of the error beneath it says: whether the call may be repeated
(`isRetryable_normalised`) and whether the stream has ended too early
(`ofIoError_normalised_eq_unexpectedEof_iff`). Only what a receive reports can be the end of the
stream. -/

namespace SecureStream

@[simp] theorem IoError.kind_wrapped (k : IoError.Kind) (x : IoError) :
    (IoError.wrapped k x).kind = k := rfl

theorem isRetryable_ofIoError (x : IoError) (d : Direction) :
    (StreamFault.ofIoError x d).isRetryable = x.kind.isNotReady := by
  unfold StreamFault.ofIoError SocketSignal.ofKind
  by_cases hn : x.kind.isNotReady
  · cases d <;> simp only [hn, if_true] <;> rfl
  · by_cases hg : x.kind.isPeerGone
    · cases d <;> simp only [hn, hg, if_true] <;> rfl
    · cases d <;> simp only [hn, hg]
      · rfl
      · by_cases he : x.kind = .unexpectedEof
        · simp only [he]
          rfl
        · simp only [he]
          rfl

theorem isNotReady_normalised (x : IoError) (d : Direction) :
    (x.normalised d).kind.isNotReady = x.kind.isNotReady := by
  unfold IoError.normalised SocketSignal.ofKind
  by_cases hn : x.kind.isNotReady
  · cases d <;> simp only [hn, if_true] <;> rfl
  · by_cases hg : x.kind.isPeerGone
    · cases d <;> simp only [hn, hg, if_true] <;> rfl
    · cases d <;> simp [hn, hg]

theorem isRetryable_normalised (x : IoError) (d : Direction) :
    (StreamFault.ofIoError (x.normalised d) d).isRetryable = x.kind.isNotReady := by
  rw [isRetryable_ofIoError, isNotReady_normalised]

theorem ofIoError_ne_peerClosed (x : IoError) (d : Direction) :
    StreamFault.ofIoError x d ≠ .peerClosed := by
  unfold StreamFault.ofIoError
  cases SocketSignal.ofKind x.kind d with
  | recvFailed => by_cases hk : x.kind = .unexpectedEof <;> simp [hk]
  | _ => simp

theorem ofIoError_send_ne_unexpectedEof (x : IoError) :
    StreamFault.ofIoError x .send ≠ .unexpectedEof := by
  unfold StreamFault.ofIoError SocketSignal.ofKind
  by_cases hn : x.kind.isNotReady
  · simp [hn]
  · by_cases hg : x.kind.isPeerGone <;> simp [hn, hg]

/-- A receive finds the end of the stream in an error exactly if its kind says so. -/
theorem ofIoError_recv_eq_unexpectedEof_iff (x : IoError) :
    StreamFault.ofIoError x .recv = .unexpectedEof ↔ x.kind = .unexpectedEof := by
  unfold StreamFault.ofIoError SocketSignal.ofKind
  by_cases hk : x.kind = .unexpectedEof
  · simp [hk, IoError.Kind.isNotReady, IoError.Kind.isPeerGone]
  · by_cases hn : x.kind.isNotReady
    · simp [hn, hk]
    · by_cases hg : x.kind.isPeerGone <;> simp [hn, hg, hk]

theorem ofIoError_normalised_eq_unexpectedEof_iff (x : IoError) :
    StreamFault.ofIoError (x.normalised .recv) .recv = .unexpectedEof ↔
      x.kind = .unexpectedEof := by
  rw [ofIoError_recv_eq_unexpectedEof_iff]
  unfold IoError.normalised SocketSignal.ofKind
  by_cases hn : x.kind.isNotReady
  · have hk : x.kind ≠ .unexpectedEof := by
      intro hk
      rw [hk] at hn
      cases hn
    simp [hn, hk]
  · by_cases hg : x.kind.isPeerGone
    · have hk : x.kind ≠ .unexpectedEof := by
        intro hk
        rw [hk] at hg
        cases hg
      simp [hn, hg, hk]
    · simp [hn, hg]

end SecureStream
