import SecureStream.Loopback.Client
import SecureStream.Proofs.Retry.HandshakeFaults

/-! # Faults in the handshake of the client

The client can wait (`patient_protocol`), and it makes no empty record: a record has a header, and
whatever comes from the server, the client adds records to those that wait
(`fillsRecords_protocol`). So its handshake over a delayed script comes to the same
(`drive_of_start`). -/

namespace SecureStream.Loopback

open Tls (Record RecordType Version Alert HandshakeType Message)

/-! ### Records -/

namespace Channel

/-- **No record that waits is empty**, nor is the one that goes with the next. -/
def Full (c : Channel) : Prop := [] ∉ c.written ++ c.update.toList

variable {c : Channel}

theorem Full.put (h : c.Full) (r : Record) : (c.put r).Full := by
  have hr : [] ≠ r.encode := (List.cons_ne_nil _ _).symm
  unfold Full Channel.put
  rw [Option.toList_none, List.append_nil, List.mem_append, not_or, List.mem_singleton]
  exact ⟨h, hr⟩

theorem Full.answer (h : c.Full) (r : Record) :
    Full { c with update := some r.encode } := by
  have hr : [] ≠ r.encode := (List.cons_ne_nil _ _).symm
  have hw : [] ∉ c.written := fun hmem => h (List.mem_append_left _ hmem)
  unfold Full
  rw [Option.toList_some, List.mem_append, not_or, List.mem_singleton]
  exact ⟨hw, hr⟩

theorem Full.emit (h : c.Full) (type : RecordType) (b : Bytes) : (c.emit type b).Full := by
  have hone (c : Channel) (hc : c.Full) (piece : Bytes) : (c.emitOne type piece).Full :=
    Full.put (c := { c with writing := (c.writing.write type piece).2 }) hc _
  exact List.foldlRecOn _ _ h fun c hc piece _ => hone c hc piece

theorem Full.emitMessages (h : c.Full) (l : List Message) : (c.emitMessages l).Full :=
  Full.emit (c := c.note (l.flatMap Message.encode)) h .handshake _

theorem Full.emitFatal (h : c.Full) (a : Alert) : (c.emitFatal a).Full :=
  h.emit .alert [2, UInt8.ofNat a.code]

theorem Full.handOn (h : c.Full) : c.handOn.2.Full ∧ [] ∉ c.handOn.1 :=
  ⟨fun hmem => h (List.mem_append_right _ hmem), fun hmem => h (List.mem_append_left _ hmem)⟩

theorem Full.of_opened {r : Record} {x : (RecordType × Bytes) × Channel} (h : c.Full)
    (hx : c.opened? r = some x) : x.2.Full := by
  unfold opened? at hx
  split at hx
  · cases hx
    exact h
  · obtain ⟨y, -, rfl⟩ := Option.map_eq_some_iff.mp hx
    exact h

theorem Full.of_countEmpty {c' : Channel} {b : Bytes} (h : c.Full)
    (hc : c.countEmpty b = some c') : c'.Full := by
  unfold countEmpty at hc
  split at hc
  · cases hc
    exact h
  · split at hc
    · cases hc
    · cases hc
      exact h

end Channel

namespace Client

/-- **No record that waits in the client is empty.** -/
def Full (c : Client) : Prop := c.channel.Full

variable {c : Client}

/-! ### Giving up and going on -/

theorem Full.fail (h : c.Full) (a : Alert) (x : TlsError) : (c.fail a x).Full :=
  Channel.Full.emitFatal h a

theorem Full.refuse (h : c.Full) (r : Refusal) : (c.refuse r).Full := h.fail r.alert r.error

theorem Full.failRecord (h : c.Full) (got : RecordType) : (c.failRecord got).Full := h.fail _ _

theorem Full.failMessage (h : c.Full) (got : HandshakeType) : (c.failMessage got).Full := by
  unfold Client.failMessage
  split
  · exact h.failRecord _
  · exact h.fail _ _

theorem Full.aligned {next : Client → Client} (h : c.Full)
    (hnext : ∀ c : Client, c.Full → (next c).Full) : (c.aligned next).Full := by
  unfold Client.aligned
  split
  · exact hnext c h
  · exact h.refuse _

theorem Full.judged {next : Client → Client} (h : c.Full) (now : ℕ)
    (hnext : ∀ c : Client, c.Full → (next c).Full) : (c.judged now next).Full := by
  unfold Client.judged
  split
  · exact h
  · split
    · exact h.fail _ _
    · exact hnext c h

theorem Full.signed {next : Tls.ServerKeyExchange → Client → Client} (h : c.Full)
    (hnext : ∀ x (c : Client), c.Full → (next x c).Full) : (c.signed next).Full := by
  unfold Client.signed
  split
  · split
    · exact h.refuse _
    · split
      · exact h.fail _ _
      · exact hnext _ c h
  · exact h

theorem Full.emitEach (h : c.Full) (l : List Message) : (c.emitEach l).Full :=
  List.foldlRecOn l _ h fun _ hc m _ => Channel.Full.emitMessages hc [m]

/-! ### Messages of the server -/

theorem Full.onHello13 (h : c.Full) (m : Tls.ServerHello) : (c.onHello13 m).Full := by
  unfold Client.onHello13
  split
  · exact h.refuse _
  · exact h.aligned fun c hc => Channel.Full.put hc _

theorem Full.onHello12 (h : c.Full) (m : Tls.ServerHello) : (c.onHello12 m).Full := by
  unfold Client.onHello12
  split
  · exact h.refuse _
  · exact h

theorem Full.onServerHello (h : c.Full) (m : Tls.ServerHello) : (c.onServerHello m).Full := by
  unfold Client.onServerHello
  split
  · exact h.refuse _
  · next version suite _ =>
    have hc : Full { c with
      greeting := some m
      suite := some suite
      channel := { c.channel with version := some version } } := h
    dsimp only
    split
    · exact hc.onHello13 m
    · exact hc.onHello12 m

theorem Full.onRetryRequest (h : c.Full) (r : Tls.RetryRequest) : (c.onRetryRequest r).Full :=
  h.aligned fun _ hc => hc.refuse _

theorem Full.onFinished13 (h : c.Full) : c.onFinished13.Full :=
  h.aligned fun c hc => Channel.Full.emitMessages (c := c.channel.agree) hc _

theorem Full.onKeyUpdate (h : c.Full) (request : ℕ) : (c.onKeyUpdate request).Full := by
  refine h.aligned fun c hc => ?_
  split
  · exact hc
  · split
    · exact hc.fail _ _
    · dsimp only
      split
      · exact hc.answer _
      · exact hc

theorem Full.onKeyExchange (h : c.Full) (b : Bytes) : (c.onKeyExchange b).Full := by
  unfold Client.onKeyExchange
  split
  · exact h.fail _ _
  · exact h

theorem Full.exchangeKeys (h : c.Full) (g : Tls.KeyGroup) (x : Tls.ServerKeyExchange) :
    (c.exchangeKeys g x).Full := by
  have hshare := h.emitEach
    [.clientKeyExchange (Tls.ServerKeyExchange.clientBody (filler g.clientSize))]
  unfold Client.exchangeKeys
  dsimp only
  generalize c.emitEach _ = c₁ at hshare ⊢
  have hagreed : Full { c₁ with channel := c₁.channel.agree } := hshare
  have hproof := hagreed.emitEach c₁.proofMessages
  split
  · exact hproof.refuse _
  · refine Full.emitEach ?_ _
    exact Channel.Full.put hproof _

theorem Full.onHelloDone (h : c.Full) (now : ℕ) : (c.onHelloDone now).Full := by
  refine h.aligned fun c hc => hc.judged now fun c hc => hc.signed fun x c hc => ?_
  have heach := hc.emitEach (c.certificateMessages false)
  dsimp only
  split
  · exact heach.refuse _
  · exact heach.exchangeKeys _ x

theorem Full.onMessage (h : c.Full) (now : ℕ) (m : Message) : (c.onMessage now m).Full := by
  unfold Client.onMessage
  split
  · exact h.onServerHello _
  · exact h.onRetryRequest _
  · exact h
  · exact h
  · exact h
  · exact h
  · exact h.judged now fun c hc => hc
  · exact h.onFinished13
  · exact h
  · exact h.onKeyUpdate _
  · exact h
  · exact h
  · exact h.onKeyExchange _
  · exact h.onKeyExchange _
  · exact h
  · exact h.onHelloDone now
  · exact h.onHelloDone now
  · exact h
  · exact h
  · exact h.failMessage _

theorem Full.onMessages (h : c.Full) (now : ℕ) (l : List (HandshakeType × Bytes)) :
    (c.onMessages now l).Full := by
  induction l generalizing c with
  | nil => exact h
  | cons x rest ih =>
    obtain ⟨type, b⟩ := x
    have hturn : Full { c with channel := c.channel.turnTo type b rest } := h
    have hnext (c : Client) (hc : c.Full) :
        Full (if c.failure.isSome then c else onMessages now rest c) := by
      split
      · exact hc
      · exact ih hc
    unfold Client.onMessages
    dsimp only
    generalize Message.decode _ type b = decoded
    cases decoded with
    | error d => exact hnext _ (hturn.fail _ _)
    | ok m => exact hnext _ (hturn.onMessage now m)

/-! ### Records of the server -/

theorem Full.onHandshake (h : c.Full) (now size : ℕ) (b : Bytes) :
    (c.onHandshake now size b).Full := by
  unfold Client.onHandshake
  dsimp only
  split
  · exact h
  · refine Full.onMessages ?_ now _
    exact h

theorem Full.onAlert (h : c.Full) (level : ℕ) (a : Alert) : (c.onAlert level a).Full := by
  unfold Client.onAlert
  dsimp only
  split
  · exact h.fail _ _
  · split
    · exact h
    · split
      · split
        · exact h
        · split
          · refine Full.fail ?_ _ _
            exact h
          · exact h
      · exact h

theorem Full.onChange (h : c.Full) (b : Bytes) : (c.onChange b).Full := by
  unfold Client.onChange
  dsimp only
  split
  · split
    · exact h.fail _ _
    · split <;> exact h
  · split
    · exact h.fail _ _
    · split
      · exact h.fail _ _
      · split
        · exact h.fail _ _
        · split
          · exact h.aligned fun c hc => hc
          · exact h.failRecord _

theorem Full.onContents (h : c.Full) (now size : ℕ) (type : RecordType) (b : Bytes) :
    (c.onContents now size type b).Full := by
  unfold Client.onContents
  split
  · exact h.onHandshake now size b
  · split
    · exact h
    · split
      · split
        · exact h.fail _ _
        · exact h.fail _ _
        · exact h.onAlert _ _
        · exact h.fail _ _
      · split
        · exact h.onChange b
        · split
          · split
            · exact h
            · exact h.failRecord _
          · exact h.fail _ _

theorem Full.onRecord (h : c.Full) (now size : ℕ) (r : Record) : (c.onRecord now size r).Full := by
  unfold Client.onRecord
  split
  · exact h.fail _ _
  · next type b channel hopen =>
    have hchannel : channel.Full := Channel.Full.of_opened h hopen
    split
    · exact h
    · next channel' hcount =>
      have hcounted : Full { c with channel := channel' } := hchannel.of_countEmpty hcount
      exact hcounted.onContents now size type b

theorem Full.work (h : c.Full) (now : ℕ) (input : Bytes) : (c.work now input).Full := by
  fun_induction Client.work now input c with
  | case1 => exact h
  | case2 =>
    refine Full.fail ?_ _ _
    exact h
  | case3 => exact Full.onRecord h now _ _
  | case4 => exact Full.onRecord h now _ _
  | case5 _ _ _ _ _ _ _ _ ih => exact ih (Full.onRecord h now _ _)

/-! ### Room -/

/-- The octets in the buffer. -/
def used (c : Client) : ℕ := c.held + c.input.length

/-- The largest buffer. -/
def limit (c : Client) : ℕ :=
  if c.channel.fragment.isEmpty then maxWire else Channel.maxMessage

/-- What a buffer of `n` octets grows or shrinks to. -/
def resized (c : Client) (n : ℕ) : ℕ :=
  let need := min c.limit (c.used + readSize)
  if n < need ∨ c.used = 0 ∨ c.limit < n then need else n

theorem resized_resized (c : Client) (n : ℕ) : c.resized (c.resized n) = c.resized n := by
  unfold resized
  dsimp only
  by_cases h : n < min c.limit (c.used + readSize) ∨ c.used = 0 ∨ c.limit < n
  · rw [if_pos h, ite_self]
  · rw [if_neg h, if_neg h]

theorem room_of_full (h : c.limit ≤ c.used) : room c = (none, c) := if_pos h

theorem room_capacity (h : ¬c.limit ≤ c.used) (n : ℕ) :
    room { c with capacity := n } =
      (some (c.resized n - c.used), { c with capacity := c.resized n }) :=
  if_neg h

theorem room_of_room (h : ¬c.limit ≤ c.used) :
    room c = (some (c.resized c.capacity - c.used), { c with capacity := c.resized c.capacity }) :=
  room_capacity h c.capacity

/-- **The client can wait.** -/
theorem patient_protocol (now : ℕ) : (protocol now).Patient where
  room c := by
    show room (room c).2 = room c
    by_cases h : c.limit ≤ c.used
    · rw [room_of_full h, room_of_full h]
    · rw [room_of_room h]
      dsimp only
      rw [room_capacity h, resized_resized]
  isHandshaking c := by
    show (!(room c).2.stage.isTraffic) = !c.stage.isTraffic
    by_cases h : c.limit ≤ c.used
    · rw [room_of_full h]
    · rw [room_of_room h]

/-! ### The client as a protocol -/

/-- **The client makes no empty record.** -/
theorem fillsRecords_protocol (now : ℕ) : Handshake.FillsRecords (protocol now) Full where
  room c h := by
    show (room c).2.Full
    by_cases hused : c.limit ≤ c.used
    · rw [room_of_full hused]
      exact h
    · rw [room_of_room hused]
      exact h
  feed _ _ h := h
  process c h := Channel.Full.handOn (h.work now c.input)

theorem full_of_start {setup : SessionSetup} {source : Entropy} {core : Client}
    {records : List Bytes} (h : (start setup source).1 = .ok (core, records)) :
    Handshake.Full Full (.fresh core records) := by
  have hhello : (fresh setup).channel.Full := by
    refine Channel.Full.emitMessages ?_ _
    exact List.not_mem_nil
  obtain ⟨hcore, hrecords⟩ := hhello.handOn
  unfold start at h
  split at h
  · cases h
  · cases h
    exact ⟨hcore, hrecords⟩

end Client

end SecureStream.Loopback

namespace SecureStream.Handshake

open Loopback (Client)

/-- **The handshake of a client that has just started comes to the same over a delayed script.** -/
theorem drive_of_start {ε : Type} {io : ByteStream ε} {clock : Clock ε} {view : ε → Script}
    (now : ℕ) {setup : SessionSetup} {source : Entropy} {core : Client} {records : List Bytes}
    (h : (Client.start setup source).1 = .ok (core, records))
    (hio : io.Projects view Script.stream) (hc : clock.Keeps fun e e' => view e' = view e)
    {n m : ℕ} {e₀ e₀' : ε} (hd : Script.Delays n m (view e₀) (view e₀')) :
    (∀ fuel o, drive (Client.protocol now) io clock none fuel (.fresh core records) e₀ = some o →
      ∃ fuel' o', drive (Client.protocol now) io clock none fuel' (.fresh core records) e₀' =
        some o' ∧ SameOutcome view (n + m) o o') ∧
    ∀ fuel' o', drive (Client.protocol now) io clock none fuel' (.fresh core records) e₀' =
        some o' →
      ∃ fuel o, drive (Client.protocol now) io clock none fuel (.fresh core records) e₀ =
        some o ∧ SameOutcome view (n + m) o o' := by
  have hp := Client.patient_protocol now
  have hfirst := Client.full_of_start h
  have hfull (l s e)
      (hr : Reached (Client.protocol now) io clock none (.fresh core records) e₀ l s e) :
      [] ∉ s.outbox :=
    (hfirst.of_reached (Client.fillsRecords_protocol now) hr).outbox
  exact ⟨fun fuel o ho => drive_delayed hc hp hio hfull hd ho,
    fun fuel o ho => drive_of_delayed hc hp hio hfull hd ho⟩

end SecureStream.Handshake
