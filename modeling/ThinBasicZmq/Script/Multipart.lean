import ThinBasicZmq.Keywords.Lengths

/-!
# Multipart messages

A script sends a list of strings with `ZmqSendStr` and another one collects them with
`ZmqRecvStr`. The pair of sockets between them is libzmq's, and is described here by what
its calls do to the frames on their way.
-/

namespace ThinBasicZmq

open Interaction

def ZMQ_SNDMORE : LONG := 2
def ZMQ_RCVMORE : LONG := 13

structure Frame where
  bytes : List UInt8
  more : Bool
deriving DecidableEq

/-- The frames of one message. -/
def frames : List (List UInt8) → List Frame
  | [] => []
  | [b] => [⟨b, false⟩]
  | b :: c :: rest => ⟨b, true⟩ :: frames (c :: rest)

/-- No message is cut off at the end. -/
def Complete (fs : List Frame) : Prop := ∀ f ∈ fs.getLast?, f.more = false

/-- Two connected sockets of a library whose calls succeed: frames arrive unchanged and in
order, and `RCVMORE` tells whether the last received one is continued. -/
structure Channel {L : Type} (lib : Library L) (sender receiver : Ptr) where
  inFlight : L → List Frame
  more : L → Bool
  send : ∀ l buf n m bytes, buf.bytes n.toNat = some bytes →
    (lib (.send sender buf n (if m then ZMQ_SNDMORE else 0)) l).1 = Int32.ofNat n.toNat ∧
    inFlight (lib (.send sender buf n (if m then ZMQ_SNDMORE else 0)) l).2 =
      inFlight l ++ [⟨bytes, m⟩]
  recv : ∀ l buf n f rest, inFlight l = f :: rest → Complete (f :: rest) →
    (lib (.recv receiver buf n 0) l).1 = (Int32.ofNat f.bytes.length, f.bytes.take n.toNat) ∧
    inFlight (lib (.recv receiver buf n 0) l).2 = rest ∧
    more (lib (.recv receiver buf n 0) l).2 = f.more
  rcvmore : ∀ l optval n,
    (lib (.getsockopt receiver ZMQ_RCVMORE optval n) l).1 = (0, some (if more l then 1 else 0)) ∧
    inFlight (lib (.getsockopt receiver ZMQ_RCVMORE optval n) l).2 = inFlight l

variable {L : Type}

/-- Sends each string, with `%ZMQ_SNDMORE` on all but the last. -/
def sendAll (H : Host) (lib : Library L) (socket : LONG) :
    List ScriptString → Session L → List Value × Session L
  | [], s => ([], s)
  | m :: rest, s =>
    let flags := if rest.isEmpty then 0 else ZMQ_SNDMORE
    let (v, s) := H.call lib .zmqSendStr [.int socket, .str (some m.ptr), .int flags] s
    let (vs, s) := sendAll H lib socket rest s
    (v :: vs, s)

def Value.chars : Value → List UInt8
  | .long _ => []
  | .bstr b => b.chars

/-- Receives a string, and repeats while `ZmqGetsockoptInt(h, %ZMQ_RCVMORE) <> 0`. -/
def recvAll (H : Host) (lib : Library L) (socket : LONG) :
    ℕ → Session L → Option (List (List UInt8) × Session L)
  | 0, _ => none
  | fuel + 1, s =>
    let (v, s) := H.call lib .zmqRecvStr [.int socket, .int 4096, .int 0] s
    let (more, s) := H.call lib .zmqGetsockoptInt [.int socket, .int ZMQ_RCVMORE] s
    if more = .long 0 then some ([v.chars], s)
    else (recvAll H lib socket fuel s).map fun (vs, s) => (v.chars :: vs, s)

variable {H : Host} {lib : Library L}

/-- `ZmqSendStr` is one call of `zmq_send`, with the bytes of the string. -/
lemma call_sendStr {s : Session L} (hs : s.Ready) (socket flags : LONG) {m : ScriptString}
    (hm : m.text.length ≤ TB_RETURN_STRING_MAX) : ∃ buf n,
      buf.bytes n.toNat = some m.text ∧ n.toNat = m.text.length ∧
      H.call lib .zmqSendStr [.int socket, .str (some m.ptr), .int flags] s =
        (.long (lib (.send (tbPtrFromHandle socket) buf n flags) s.lib).1,
          { s with lib := (lib (.send (tbPtrFromHandle socket) buf n flags) s.lib).2 }) := by
  let msg := m.parsed (hm.trans_lt (by decide))
  have hlen : msg.ptr.strlen ≤ TB_RETURN_STRING_MAX := by
    rw [ScriptString.strlen_parsed]
    exact hm
  let cells := msg.ptr.text.map some ++ List.replicate (TB_RETURN_STRING_MAX - msg.ptr.strlen) none
  obtain ⟨hn, hbytes⟩ := passesBytes_arr msg (List.replicate (TB_RETURN_STRING_MAX -
    msg.ptr.strlen) none)
  rw [ScriptString.strlen_parsed] at hn
  refine ⟨.arr cells, msg.len, ?_, hn, ?_⟩
  · rw [hbytes, ScriptString.text_parsed]
  have hrun : (sendStrAction socket msg flags).run (H.answer lib) s =
      ((lib (.send (tbPtrFromHandle socket) (.arr cells) msg.len flags) s.lib).1,
        { s with lib := (lib (.send (tbPtrFromHandle socket) (.arr cells) msg.len flags) s.lib).2 })
      := by
    have hguard : ¬ msg.len.toNat > TB_RETURN_STRING_MAX := by
      rw [msg.toNat_len]
      omega
    unfold sendStrAction
    rw [if_neg hguard, Prog.run_bind,
      Host.run_settles (copyBytes_settles hlen) fun _ => StoreWithin.isLocal]
    exact Host.run_zmqApi hs.loaded
  exact Host.call_long .zmqSendStr rfl (socket, msg, flags, ()) hrun

lemma run_endpointAction {api : Ptr → Ref → Sdk LONG} {s s' : Session L}
    (socket : LONG) {t : ScriptString} (ht : t.text.length < MAX_PATH) {v : LONG}
    (hapi : (api (tbPtrFromHandle socket) (.arr (terminated MAX_PATH t.text))).run (H.answer lib) s =
      (v, s')) :
    (endpointAction api socket (t.parsed (ht.trans (by decide)))).run (H.answer lib) s = (v, s') := by
  have hguard : ¬ (t.parsed (ht.trans (by decide))).len.toNat ≥ MAX_PATH := by
    rw [ParsedString.toNat_len, ScriptString.strlen_parsed]
    omega
  have hcopy := @Host.run_copyString _ H lib MAX_PATH (t.parsed (ht.trans (by decide)))
    (by rwa [ScriptString.strlen_parsed]) s
  rw [ScriptString.text_parsed] at hcopy
  unfold endpointAction
  rw [if_neg hguard, Prog.run_bind, hcopy, hapi]

private lemma toUInt32_ofNat {n : ℕ} (hn : n ≤ TB_RETURN_STRING_MAX) :
    (Int32.ofNat n).toUInt32.toNat = n := by
  rw [Int32.toUInt32_ofNat', UInt32.toNat_ofNat']
  exact Nat.mod_eq_of_lt (hn.trans_lt (by decide))

lemma not_ofNat_neg {n : ℕ} (hn : n ≤ TB_RETURN_STRING_MAX) : ¬ Int32.ofNat n < 0 := by
  rw [Int32.lt_iff_toInt_lt, Int32.toInt_ofNat_of_lt (hn.trans_lt (by decide))]
  exact Int.not_lt.mpr (Int.natCast_nonneg _)

lemma recvStrAction_eq (socket flags : LONG) {maxLen : LONG} (hpos : 0 < maxLen) :
    recvStrAction socket maxLen flags =
      zmqApiRecv (tbPtrFromHandle socket) (.arr (localArray TB_RETURN_STRING_MAX))
        (cappedLen maxLen) flags >>= fun r =>
      if r.1 < 0 then tbReturnEmpty
      else tbReturnStringN (some (Memory.put (localArray TB_RETURN_STRING_MAX) 0 r.2))
        (if r.1.toUInt32 > cappedLen maxLen then cappedLen maxLen else r.1.toUInt32).toNat := by
  unfold recvStrAction
  rw [if_neg (Int32.not_le.mpr hpos)]
  rfl

/-- `ZmqRecvStr` is one call of `zmq_recv`. It returns a message that fits, and an empty string for
a failure. -/
lemma call_recvStr {s : Session L} (hs : s.Ready) (socket : LONG) {maxLen flags : LONG}
    (hpos : 0 < maxLen) {n : LONG} {stored : List UInt8} {l : L}
    (hrecv : lib (.recv (tbPtrFromHandle socket) (.arr (localArray TB_RETURN_STRING_MAX))
      (cappedLen maxLen) flags) s.lib = ((n, stored), l)) :
    ∃ b, H.call lib .zmqRecvStr [.int socket, .int maxLen, .int flags] s =
        (.bstr b, { s with lib := l }) ∧ (n < 0 → b = some []) ∧
      (n = Int32.ofNat stored.length → stored.length ≤ (cappedLen maxLen).toNat →
        b = some stored) := by
  let rest : Sdk Bstr := if n < 0 then tbReturnEmpty
    else tbReturnStringN (some (Memory.put (localArray TB_RETURN_STRING_MAX) 0 stored))
      (if n.toUInt32 > cappedLen maxLen then cappedLen maxLen else n.toUInt32).toNat
  have hready : ({ s with lib := l } : Session L).Ready := hs.withLib l
  have hapi : (zmqApiRecv (tbPtrFromHandle socket) (.arr (localArray TB_RETURN_STRING_MAX))
      (cappedLen maxLen) flags).run (H.answer lib) s = ((n, stored), { s with lib := l }) :=
    (Host.run_zmqApi hs.loaded).trans (by rw [hrecv])
  have hrun : (recvStrAction socket maxLen flags).run (H.answer lib) s =
      rest.run (H.answer lib) { s with lib := l } := by
    rw [recvStrAction_eq _ _ hpos, Prog.run_bind, hapi]
  have hstate : (rest.run (H.answer lib) { s with lib := l }).2 = { s with lib := l } :=
    Host.run_result (.ite tbReturnEmpty_result (tbReturnStringN_result _ _)) _
  refine ⟨(rest.run (H.answer lib) { s with lib := l }).1, ?_, ?_, ?_⟩
  · exact Host.call_bstr .zmqRecvStr rfl (socket, maxLen, flags, ())
      (hrun.trans (Prod.ext rfl hstate))
  · intro hneg
    change Prod.fst ((ite (n < 0) _ _ : Sdk Bstr).run _ _) = _
    rw [if_pos hneg, Host.run_tbReturnEmpty hready.alloc]
  · rintro rfl hfits
    have hsize : stored.length ≤ TB_RETURN_STRING_MAX := by
      have hcapped := toNat_cappedLen (Int32.lt_iff_toInt_lt.mp hpos)
      omega
    have hcopied : ¬ (Int32.ofNat stored.length).toUInt32 > cappedLen maxLen := by
      rw [gt_iff_lt, UInt32.lt_iff_toNat_lt, toUInt32_ofNat hsize]
      exact Nat.not_lt.mpr hfits
    change Prod.fst ((ite (Int32.ofNat stored.length < 0) _ _ : Sdk Bstr).run _ _) = _
    rw [if_neg (not_ofNat_neg hsize), if_neg hcopied, toUInt32_ofNat hsize,
      Memory.put_zero (by simpa using hsize)]
    rw [Host.run_tbReturnStringN hready.alloc _ hsize]

/-- `ZmqGetsockoptInt` returns the value that libzmq stores, and `-1` for a failure. -/
lemma call_getsockoptInt_answer {s : Session L} (hs : s.Ready) (socket option : LONG)
    {rc : LONG} {stored : Option LONG} {l : L}
    (hget : lib (.getsockopt (tbPtrFromHandle socket) option (.long 0) 4) s.lib =
      ((rc, stored), l)) :
    H.call lib .zmqGetsockoptInt [.int socket, .int option] s =
      (.long (if rc = 0 then stored.getD 0 else -1), { s with lib := l }) := by
  have hapi : (zmqApiGetsockopt (tbPtrFromHandle socket) option (.long 0) 4).run (H.answer lib) s =
      ((rc, stored), { s with lib := l }) := by
    refine (Host.run_zmqApi hs.loaded).trans ?_
    rw [hget]
  have hrun : (getsockoptIntAction socket option).run (H.answer lib) s =
      (if rc = 0 then stored.getD 0 else -1, { s with lib := l }) := by
    unfold getsockoptIntAction
    rw [Prog.run_bind, hapi]
    by_cases hrc : rc = 0
    · simp only [hrc, ne_eq, not_true_eq_false, if_false, if_true]
      rfl
    · simp only [hrc, ne_eq, not_false_eq_true, if_false, if_true]
      rfl
  exact Host.call_long .zmqGetsockoptInt rfl (socket, option, ()) hrun

lemma call_getsockoptInt {s : Session L} (hs : s.Ready) (socket option : LONG) {v : LONG}
    (hget : (lib (.getsockopt (tbPtrFromHandle socket) option (.long 0) 4) s.lib).1 =
      (0, some v)) :
    H.call lib .zmqGetsockoptInt [.int socket, .int option] s = (.long v,
      { s with lib := (lib (.getsockopt (tbPtrFromHandle socket) option (.long 0) 4) s.lib).2 }) :=
  call_getsockoptInt_answer hs socket option (Prod.ext hget rfl)

variable {hs hr : LONG}

lemma sendAll_spec (ch : Channel lib (tbPtrFromHandle hs) (tbPtrFromHandle hr))
    (msgs : List ScriptString) (hlen : ∀ m ∈ msgs, m.bytes.length ≤ TB_RETURN_STRING_MAX)
    (s : Session L) (hready : s.Ready) :
    (sendAll H lib hs msgs s).1 = msgs.map (fun m => .long (Int32.ofNat m.text.length)) ∧
    ch.inFlight (sendAll H lib hs msgs s).2.lib =
      ch.inFlight s.lib ++ frames (msgs.map ScriptString.text) ∧
    (sendAll H lib hs msgs s).2.Ready := by
  induction msgs generalizing s with
  | nil => exact ⟨rfl, (List.append_nil _).symm, hready⟩
  | cons m rest ih =>
    have hm : m.text.length ≤ TB_RETURN_STRING_MAX :=
      m.length_text_le.trans (hlen m List.mem_cons_self)
    have hflags : (if rest.isEmpty then 0 else ZMQ_SNDMORE) =
        if !rest.isEmpty then ZMQ_SNDMORE else 0 := by
      cases rest <;> rfl
    obtain ⟨buf, n, hbytes, hn, hcall⟩ := @call_sendStr _ H lib _ hready hs
      (if rest.isEmpty then 0 else ZMQ_SNDMORE) _ hm
    rw [hflags] at hcall
    obtain ⟨hv, hflight⟩ := ch.send s.lib buf n (!rest.isEmpty) m.text hbytes
    obtain ⟨hvs, hframes, hready'⟩ := ih (fun m' hm' => hlen m' (List.mem_cons_of_mem m hm')) _
      (hready.withLib (lib (.send (tbPtrFromHandle hs) buf n
        (if !rest.isEmpty then ZMQ_SNDMORE else 0)) s.lib).2)
    simp only [sendAll, hflags, hcall]
    refine ⟨?_, ?_, hready'⟩
    · rw [hvs, hv, hn]
      rfl
    · rw [hframes, hflight, List.append_assoc]
      cases rest <;> rfl

lemma frames_cons (b : List UInt8) (rest : List (List UInt8)) :
    frames (b :: rest) = ⟨b, !rest.isEmpty⟩ :: frames rest := by
  cases rest <;> rfl

private lemma complete_frames (bs : List (List UInt8)) : Complete (frames bs) := by
  induction bs with
  | nil => simp [Complete, frames]
  | cons b rest ih =>
    cases rest with
    | nil => simp [Complete, frames]
    | cons c rest =>
      intro g hg
      apply ih g
      rw [frames_cons, frames_cons, List.getLast?_cons_cons] at hg
      rwa [frames_cons]

/-- The receiver's loop ends with the last frame of the message, whatever more fuel there is. -/
lemma recvAll_spec (ch : Channel lib (tbPtrFromHandle hs) (tbPtrFromHandle hr))
    (bs : List (List UInt8)) (hne : bs ≠ []) (hlen : ∀ b ∈ bs, b.length ≤ TB_RETURN_STRING_MAX)
    (s : Session L) (hready : s.Ready) (hflight : ch.inFlight s.lib = frames bs) (fuel : ℕ)
    (hfuel : bs.length ≤ fuel) : ∃ s', recvAll H lib hr fuel s = some (bs, s') := by
  induction bs generalizing s fuel with
  | nil => exact absurd rfl hne
  | cons b rest ih =>
    obtain ⟨fuel, rfl⟩ : ∃ n, fuel = n + 1 := ⟨fuel - 1, by simp at hfuel; omega⟩
    have hb : b.length ≤ TB_RETURN_STRING_MAX := hlen b List.mem_cons_self
    have hcomplete : Complete (⟨b, !rest.isEmpty⟩ :: frames rest) := by
      rw [← frames_cons]
      exact complete_frames _
    rw [frames_cons] at hflight
    obtain ⟨hval, hrest, hmore⟩ := ch.recv s.lib (.arr (localArray TB_RETURN_STRING_MAX)) 4096 _ _
      hflight hcomplete
    rw [List.take_of_length_le (by exact hb)] at hval
    let l₁ := (lib (.recv (tbPtrFromHandle hr) (.arr (localArray TB_RETURN_STRING_MAX)) 4096 0)
      s.lib).2
    obtain ⟨_, hrecv, -, hreturned⟩ := @call_recvStr _ H lib _ hready hr 4096 0 (by decide) _ _ l₁
      (Prod.ext hval rfl)
    obtain rfl := hreturned rfl hb
    obtain ⟨hget, hkept⟩ := ch.rcvmore l₁ (.long 0) 4
    have hgetsockopt := @call_getsockoptInt _ H lib _ (hready.withLib l₁) hr ZMQ_RCVMORE _ hget
    simp only [recvAll, hrecv]
    rw [hgetsockopt]
    rw [show ch.more l₁ = !rest.isEmpty from hmore]
    cases rest with
    | nil => exact ⟨_, rfl⟩
    | cons c rest =>
      obtain ⟨s', hs'⟩ := ih (by simp) (fun b' hb' => hlen b' (List.mem_cons_of_mem b hb'))
        _ ((hready.withLib l₁).withLib (lib (.getsockopt (tbPtrFromHandle hr) ZMQ_RCVMORE (.long 0) 4)
          l₁).2) (hkept.trans hrest) fuel (by simpa using hfuel)
      refine ⟨s', ?_⟩
      change (if Value.long 1 = Value.long 0 then _ else _) = _
      rw [if_neg (by decide), hs']
      rfl

lemma recvAll_sendAll (ch : Channel lib (tbPtrFromHandle hs) (tbPtrFromHandle hr))
    {s : Session L} (hready : s.Ready) (hempty : ch.inFlight s.lib = [])
    {msgs : List ScriptString} (hne : msgs ≠ [])
    (hlen : ∀ m ∈ msgs, m.bytes.length ≤ TB_RETURN_STRING_MAX) {fuel : ℕ}
    (hfuel : msgs.length ≤ fuel) : ∃ s',
      recvAll H lib hr fuel (sendAll H lib hs msgs s).2 =
        some (msgs.map ScriptString.text, s') := by
  obtain ⟨-, hflight, hready'⟩ := @sendAll_spec _ H _ _ _ ch msgs hlen s hready
  rw [hempty, List.nil_append] at hflight
  refine recvAll_spec ch _ (by simpa using hne) ?_ _ hready' hflight fuel (by simpa using hfuel)
  simp only [List.forall_mem_map]
  exact fun m hm => m.length_text_le.trans (hlen m hm)

/-- Each string arrives up to its first NUL, as one frame, and `ZmqSendStr` returns the length
of that frame. -/
theorem multipart_roundTrip (H : Host) (lib : Library L) (hs hr : LONG)
    (ch : Channel lib (tbPtrFromHandle hs) (tbPtrFromHandle hr)) (s : Session L)
    (hready : s.Ready) (hempty : ch.inFlight s.lib = []) (msgs : List ScriptString)
    (hne : msgs ≠ []) (hlen : ∀ m ∈ msgs, m.bytes.length ≤ TB_RETURN_STRING_MAX) :
    (sendAll H lib hs msgs s).1 = msgs.map (fun m => .long (Int32.ofNat m.text.length)) ∧
    ch.inFlight (sendAll H lib hs msgs s).2.lib = frames (msgs.map ScriptString.text) ∧
    ∀ fuel, msgs.length ≤ fuel → ∃ s', recvAll H lib hr fuel (sendAll H lib hs msgs s).2 =
      some (msgs.map ScriptString.text, s') := by
  obtain ⟨hvalues, hflight, -⟩ := @sendAll_spec _ H _ _ _ ch msgs hlen s hready
  rw [hempty, List.nil_append] at hflight
  exact ⟨hvalues, hflight, fun fuel hfuel => recvAll_sendAll ch hready hempty hne hlen hfuel⟩

structure Wire where
  frames : List Frame
  more : Bool

/-- Every handle is one of the two ends, and no other call is supported. -/
def wire : Library Wire
  | .send _ buf n flags, w =>
    match buf.bytes n.toNat with
    | some b => (Int32.ofNat n.toNat, { w with frames := w.frames ++ [⟨b, flags == ZMQ_SNDMORE⟩] })
    | none => ((-1 : LONG), w)
  | .recv _ _ n _, w =>
    match w.frames with
    | f :: rest => ((Int32.ofNat f.bytes.length, f.bytes.take n.toNat), ⟨rest, f.more⟩)
    | [] => (((-1 : LONG), []), w)
  | .getsockopt _ option _ _, w =>
    if option = ZMQ_RCVMORE then (((0 : LONG), some (if w.more then 1 else 0)), w)
    else (((-1 : LONG), none), w)
  | c, w => (c.failed, w)

def wireChannel (sender receiver : Ptr) : Channel wire sender receiver where
  inFlight := Wire.frames
  more := Wire.more
  send := by
    intro l buf n m bytes h
    cases m <;> simp [wire, h, ZMQ_SNDMORE]
  recv := by
    intro l buf n f rest h _
    simp [wire, h]
  rcvmore := by
    intro l optval n
    simp [wire]

theorem multipart_roundTrip_two_frames :
    ∃ s', recvAll Host.bare wire 8 2
      (sendAll Host.bare wire 7 [.ofBytes [102, 49], .ofBytes []]
        (Session.resolved ⟨[], false⟩)).2 =
      some ([.ofBytes [102, 49], .ofBytes []].map ScriptString.text, s') :=
  (multipart_roundTrip Host.bare wire 7 8 (wireChannel _ _) (Session.resolved ⟨[], false⟩)
    (Session.ready_resolved _) rfl [.ofBytes [102, 49], .ofBytes []] (by simp)
    (by decide)).2.2 2 le_rfl

/-- A string with a NUL inside arrives cut off. -/
theorem multipart_cuts_at_nul : ¬ ∀ (L : Type) (H : Host) (lib : Library L) (hs hr : LONG)
    (ch : Channel lib (tbPtrFromHandle hs) (tbPtrFromHandle hr)) (s : Session L)
    (msgs : List ScriptString), s.Ready → ch.inFlight s.lib = [] → msgs ≠ [] →
      (∀ m ∈ msgs, m.bytes.length ≤ TB_RETURN_STRING_MAX) →
      ∃ fuel s', recvAll H lib hr fuel (sendAll H lib hs msgs s).2 =
        some (msgs.map ScriptString.bytes, s') := by
  intro h
  let msgs : List ScriptString := [.ofBytes [97, 0, 98]]
  let s : Session Wire := Session.resolved ⟨[], false⟩
  obtain ⟨fuel, s', hs'⟩ := h Wire Host.bare wire 7 8 (wireChannel _ _) s msgs
    (Session.ready_resolved _) rfl (by simp [msgs]) (by decide)
  cases fuel with
  | zero => cases hs'
  | succ fuel =>
    let ch : Channel wire (tbPtrFromHandle 7) (tbPtrFromHandle 8) := wireChannel _ _
    have hempty : ch.inFlight s.lib = [] := rfl
    have htext : ∃ s'', recvAll Host.bare wire 8 (fuel + 1) (sendAll Host.bare wire 7 msgs s).2 =
        some (msgs.map ScriptString.text, s'') :=
      recvAll_sendAll ch (Session.ready_resolved _) hempty (by simp [msgs]) (by decide)
        (by simp [msgs])
    obtain ⟨s'', hs''⟩ := htext
    rw [hs''] at hs'
    exact absurd (Prod.mk.inj (Option.some.inj hs')).1 (by decide)

end ThinBasicZmq
