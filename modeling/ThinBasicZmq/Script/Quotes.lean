import ThinBasicZmq.Script.PubSub

/-!
# Quotes in pairs

A subscriber reads the frames two by two, and a message has two frames as long as the publisher
can send both. Then the pairs are the messages, whatever gets lost on the way and whichever
calls fail between two messages.
-/

namespace ThinBasicZmq

namespace PubSub

open Interaction Script

variable {κ L : Type} [DecidableEq κ] {H : Option κ → Host} {lib : Option κ → Library L}
  {hSocket : Option κ → LONG} {R : PubSub lib hSocket} {str : LONG → List UInt8}
  {quotes : ℕ → LONG × LONG}

def topic : List UInt8 := chars "quotes"

def quoteText (str : LONG → List UInt8) (quotes : ℕ → LONG × LONG) (i : ℕ) : List UInt8 :=
  chars "Bid:" ++ str (quotes i).1 ++ chars ",Ask:" ++ str (quotes i).2

/-- The message of the `i`-th run of the publisher's loop. -/
def frames (str : LONG → List UInt8) (quotes : ℕ → LONG × LONG) (i : ℕ) : List (List UInt8) :=
  [topic, quoteText str quotes i]

/-- What a process prints about one run of its loop. -/
inductive Note
  | quote (i : ℕ)
  | failed (msg : List UInt8)

def Note.publisherLine (str : LONG → List UInt8) (quotes : ℕ → LONG × LONG) : Note → List UInt8
  | quote i => chars "Published: " ++ quoteText str quotes i
  | failed msg => chars "Send topic failed: " ++ msg

def Note.subscriberLine (str : LONG → List UInt8) (quotes : ℕ → LONG × LONG) : Note → List UInt8
  | quote i => quoteText str quotes i
  | failed msg => chars "Recv topic failed: " ++ msg

def Note.quote? : Note → Option ℕ
  | quote i => some i
  | failed _ => none

def quotesOf (notes : List Note) : List ℕ := notes.filterMap Note.quote?

/-- The `i`-th note is about the `i`-th run. -/
def Numbered (notes : List Note) : Prop := ∀ i j, notes[i]? = some (Note.quote j) → j = i

lemma Numbered.concat {notes : List Note} (h : Numbered notes) {note : Note}
    (hnote : ∀ j, note = .quote j → j = notes.length) : Numbered (notes ++ [note]) := by
  intro i j hij
  by_cases hi : i < notes.length
  · rw [List.getElem?_append_left hi] at hij
    exact h i j hij
  · rw [List.getElem?_append_right (by omega), List.getElem?_singleton] at hij
    by_cases hlast : i - notes.length = 0
    · rw [if_pos hlast] at hij
      have := hnote j (Option.some.inj hij)
      omega
    · simp [hlast] at hij

@[simp] lemma quotesOf_failed (notes : List Note) (msg : List UInt8) :
    quotesOf (notes ++ [.failed msg]) = quotesOf notes := by
  simp [quotesOf, Note.quote?]

@[simp] lemma quotesOf_quote (notes : List Note) (i : ℕ) :
    quotesOf (notes ++ [.quote i]) = quotesOf notes ++ [i] := by
  simp [quotesOf, Note.quote?]

/-- The rest of a round of the publisher that has sent the topic. -/
def sendMessage (str : LONG → List UInt8) (quotes : ℕ → LONG × LONG) (h : LONG) (n : ℕ) :
    Script Unit := do
  let rc ← zmqSendStr h (quoteText str quotes n) 0
  if rc = .long (-1) then printlError (chars "Send message failed: ")
  else printl (chars "Published: " ++ quoteText str quotes n)

/-- The rest of a round of a subscriber that has received the topic. -/
def recvMessage (h : LONG) : Script Unit := do
  let lpszMessageFrame ← zmqRecvStr h 256 0
  if lpszMessageFrame.length = 0 then printlError (chars "Recv message failed: ")
  else printl lpszMessageFrame

lemma pubRound_eq (h : LONG) (n : ℕ) : pubRound str quotes h n =
    .ask (.keyword .zmqSendStr
      [.int h, .str (some (ScriptString.ofBytes topic).ptr), .int ZMQ_SNDMORE])
      fun rc => (if rc = .long (-1) then printlError (chars "Send topic failed: ")
        else sendMessage str quotes h n) >>= fun _ => pure (n + 1) := rfl

lemma sendMessage_eq (h : LONG) (n : ℕ) : sendMessage str quotes h n =
    .ask (.keyword .zmqSendStr
      [.int h, .str (some (ScriptString.ofBytes (quoteText str quotes n)).ptr), .int 0])
      fun rc => if rc = .long (-1) then printlError (chars "Send message failed: ")
        else printl (chars "Published: " ++ quoteText str quotes n) := rfl

lemma subClient_eq (h : LONG) : subClient h =
    .ask (.keyword .zmqRecvStr [.int h, .int 256, .int 0])
      fun v => if v.chars.length = 0 then printlError (chars "Recv topic failed: ")
        else recvMessage h := rfl

lemma recvMessage_eq (h : LONG) : recvMessage h =
    .ask (.keyword .zmqRecvStr [.int h, .int 256, .int 0])
      fun v => if v.chars.length = 0 then printlError (chars "Recv message failed: ")
        else printl v.chars := rfl

/-- Where the publisher is, with what the socket holds of a message and what was published. -/
inductive PublisherAt (str : LONG → List UInt8) (quotes : ℕ → LONG × LONG) (h : LONG)
    (p : Script ℕ) (notes : List Note) (pending : List (List UInt8)) (published : List ℕ) : Prop
  | idle : p = pubRound str quotes h notes.length → pending = [] →
      published = quotesOf notes → PublisherAt str quotes h p notes pending published
  | topicFailed {q} : Reports (chars "Send topic failed: ") q →
      p = q >>= (fun _ => pure (notes.length + 1)) → pending = [] →
      published = quotesOf notes → PublisherAt str quotes h p notes pending published
  | topicSent : p = sendMessage str quotes h notes.length >>= (fun _ => pure (notes.length + 1)) →
      pending = [topic] →
      published = quotesOf notes → PublisherAt str quotes h p notes pending published
  | messageFailed {q} : Reports (chars "Send message failed: ") q →
      p = q >>= (fun _ => pure (notes.length + 1)) → pending = [topic] →
      published = quotesOf notes → PublisherAt str quotes h p notes pending published
  | messageSent :
      p = printl (chars "Published: " ++ quoteText str quotes notes.length) >>=
        (fun _ => pure (notes.length + 1)) → pending = [] →
      published = quotesOf notes ++ [notes.length] →
      PublisherAt str quotes h p notes pending published
  | done : p = pure notes.length → pending = [] →
      published = quotesOf notes → PublisherAt str quotes h p notes pending published

/-- Where a subscriber is, with what is left of the message it receives and what it got. -/
inductive SubscriberAt (str : LONG → List UInt8) (quotes : ℕ → LONG × LONG) (h : LONG)
    (p : Script Unit) (notes : List Note) (opened : List (List UInt8)) (got : List ℕ) : Prop
  | idle : p = subClient h → opened = [] → got = quotesOf notes →
      SubscriberAt str quotes h p notes opened got
  | topicFailed : Reports (chars "Recv topic failed: ") p → opened = [] →
      got = quotesOf notes → SubscriberAt str quotes h p notes opened got
  | topicTaken (i : ℕ) : p = recvMessage h → opened = [quoteText str quotes i] →
      got = quotesOf notes ++ [i] → SubscriberAt str quotes h p notes opened got
  | messageTaken (i : ℕ) : p = printl (quoteText str quotes i) → opened = [] →
      got = quotesOf notes ++ [i] → SubscriberAt str quotes h p notes opened got
  | done : p = pure () → opened = [] → got = quotesOf notes →
      SubscriberAt str quotes h p notes opened got

structure Follows (R : PubSub lib hSocket) (str : LONG → List UInt8) (quotes : ℕ → LONG × LONG)
    (c : Scripts κ L) (s : Broadcast.State κ ℕ) : Prop where
  ready : ∀ i, (c.world.sessions i).Ready
  carries : Broadcast.Carries (frames str quotes) (R.feed c.world.net) s
  publisher : ∃ notes, c.world.console none = notes.map (Note.publisherLine str quotes) ∧
    Numbered notes ∧ PublisherAt str quotes (hSocket none) (c.progs none) notes
      (R.feed c.world.net).pending s.published
  subscriber : ∀ k, ∃ notes, c.world.console (some k) = notes.map (Note.subscriberLine str quotes) ∧
    SubscriberAt str quotes (hSocket (some k)) (c.progs (some k)) notes
      ((R.feed c.world.net).opened k) (s.subscriber k).got

/-- The publisher has reported that it could not finish a message. -/
def Torn (c : Scripts κ L) : Prop :=
  ∃ line ∈ c.world.console none, chars "Send message failed: " <+: line

/-- A publisher that has stopped has finished its round. -/
lemma PublisherAt.of_done {h : LONG} {n : ℕ} {p : Script ℕ} {notes : List Note}
    {pending : List (List UInt8)} {published : List ℕ} (hp : p = .done n)
    (hat : PublisherAt str quotes h p notes pending published) :
    n = notes.length ∧ pending = [] ∧ published = quotesOf notes := by
  subst hp
  cases hat with
  | idle hprog => cases hprog
  | topicFailed hq hprog => exact absurd hprog.symm (hq.ne_done _ _)
  | topicSent hprog => cases hprog
  | messageFailed hq hprog => exact absurd hprog.symm (hq.ne_done _ _)
  | messageSent hprog => cases hprog
  | done hprog hpending hpublished => exact ⟨Prog.done.inj hprog, hpending, hpublished⟩

lemma SubscriberAt.of_done {h : LONG} {p : Script Unit} {notes : List Note}
    {opened : List (List UInt8)} {got : List ℕ} (hp : p = .done ())
    (hat : SubscriberAt str quotes h p notes opened got) :
    opened = [] ∧ got = quotesOf notes := by
  subst hp
  cases hat with
  | idle hprog => cases hprog
  | topicFailed hq => exact absurd (bind_pure _) (hq.ne_done pure ())
  | topicTaken i hprog => cases hprog
  | messageTaken i hprog => cases hprog
  | done _ hopened hgot => exact ⟨hopened, hgot⟩

variable {c : Scripts κ L} {s : Broadcast.State κ ℕ}

/-- The publisher moves on. -/
lemma Follows.publisher_moves (h : Follows R str quotes c s) {t : Broadcast.State κ ℕ}
    {w : Processes κ L} {p : Script ℕ} {notes : List Note}
    (hready : ∀ i, (w.sessions i).Ready)
    (hcarries : Broadcast.Carries (frames str quotes) (R.feed w.net) t)
    (hopened : (R.feed w.net).opened = (R.feed c.world.net).opened)
    (hgot : ∀ k, (t.subscriber k).got = (s.subscriber k).got)
    (hconsole : ∀ k, w.console (some k) = c.world.console (some k))
    (hnotes : w.console none = notes.map (Note.publisherLine str quotes))
    (hnumbered : Numbered notes)
    (hp : PublisherAt str quotes (hSocket none) p notes (R.feed w.net).pending t.published) :
    Follows R str quotes ⟨w, Function.update c.progs none p⟩ t := by
  refine ⟨hready, hcarries, ⟨notes, hnotes, hnumbered, ?_⟩, ?_⟩
  · simpa using hp
  · intro k
    obtain ⟨notes, hk, hat⟩ := h.subscriber k
    refine ⟨notes, (hconsole k).trans hk, ?_⟩
    rw [hopened, hgot k]
    simpa using hat

/-- A subscriber moves on. -/
lemma Follows.subscriber_moves (h : Follows R str quotes c s) {t : Broadcast.State κ ℕ} {k : κ}
    {w : Processes κ L} {p : Script Unit} {notes : List Note}
    (hready : ∀ i, (w.sessions i).Ready)
    (hcarries : Broadcast.Carries (frames str quotes) (R.feed w.net) t)
    (hpending : (R.feed w.net).pending = (R.feed c.world.net).pending)
    (hpublished : t.published = s.published)
    (hopened : ∀ j, j ≠ k → (R.feed w.net).opened j = (R.feed c.world.net).opened j)
    (hgot : ∀ j, j ≠ k → (t.subscriber j).got = (s.subscriber j).got)
    (hconsole : ∀ i, i ≠ some k → w.console i = c.world.console i)
    (hnotes : w.console (some k) = notes.map (Note.subscriberLine str quotes))
    (hp : SubscriberAt str quotes (hSocket (some k)) p notes ((R.feed w.net).opened k)
      (t.subscriber k).got) :
    Follows R str quotes ⟨w, Function.update c.progs (some k) p⟩ t := by
  obtain ⟨pnotes, hpnotes, hnumbered, hat⟩ := h.publisher
  refine ⟨hready, hcarries, ⟨pnotes, ?_, hnumbered, ?_⟩, ?_⟩
  · exact (hconsole none (by simp)).trans hpnotes
  · rw [hpending, hpublished]
    simpa using hat
  · intro j
    by_cases hj : j = k
    · subst hj
      exact ⟨notes, hnotes, by simpa using hp⟩
    · obtain ⟨notes, hnotes, hat⟩ := h.subscriber j
      refine ⟨notes, (hconsole (some j) (by simpa using hj)).trans hnotes, ?_⟩
      rw [hopened j hj, hgot j hj]
      simpa [hj] using hat

lemma zero_notMem_quoteText (hnum : WritesNumbers str) (i : ℕ) : 0 ∉ quoteText str quotes i := by
  have hbid : (0 : UInt8) ∉ chars "Bid:" := by decide
  have hask : (0 : UInt8) ∉ chars ",Ask:" := by decide
  simp [quoteText, hbid, hask, hnum.zero_notMem]

lemma length_quoteText (hnum : WritesNumbers str) (i : ℕ) :
    0 < (quoteText str quotes i).length ∧ (quoteText str quotes i).length ≤ 256 := by
  have hbid : (chars "Bid:").length = 4 := rfl
  have hask : (chars ",Ask:").length = 5 := rfl
  have h₁ := hnum.length_le (quotes i).1
  have h₂ := hnum.length_le (quotes i).2
  simp only [quoteText, List.length_append, hbid, hask]
  omega

variable {notes : List Note} {w : Processes κ L}

/-- The publisher comes back from a call, with what it did to the messages. -/
lemma Follows.publisher_calls (h : Follows R str quotes c s)
    (hnotes : c.world.console none = notes.map (Note.publisherLine str quotes))
    (hnumbered : Numbered notes) {x : Broadcast.Feed κ (List UInt8)} {s' : Broadcast.State κ ℕ}
    (hx : Broadcast.Carries (frames str quotes) x s')
    (hopened : x.opened = (R.feed c.world.net).opened)
    (hgot : ∀ k, (s'.subscriber k).got = (s.subscriber k).got) {l : L} (hl : x.Loses (R.feed l))
    {u : Session L} (hu : u.Ready) {p : Script ℕ}
    (hp : PublisherAt str quotes (hSocket none) p notes x.pending s'.published) :
    ∃ t, Broadcast.Step s' t ∧
      Follows R str quotes ⟨{ c.world with
        sessions := Function.update c.world.sessions none u
        net := l }, Function.update c.progs none p⟩ t := by
  obtain ⟨coming, hstep, hcarries⟩ := hx.loses hl
  rw [← hl.pending] at hp
  exact ⟨_, hstep, h.publisher_moves (ready_update h.ready _ hu) hcarries
    (hl.opened.trans hopened) hgot (fun _ => rfl) hnotes hnumbered hp⟩

lemma Follows.sendTopic (h : Follows R str quotes c s)
    (hnotes : c.world.console none = notes.map (Note.publisherLine str quotes))
    (hnumbered : Numbered notes) (hpending : (R.feed c.world.net).pending = [])
    (hpublished : s.published = quotesOf notes) {x : Value}
    (hw : Processes.respondWhen H lib R.returns none c.world (.keyword .zmqSendStr
      [.int (hSocket none), .str (some (ScriptString.ofBytes topic).ptr), .int ZMQ_SNDMORE]) x w) :
    ∃ t, Relation.ReflTransGen Broadcast.Step s t ∧
      Follows R str quotes ⟨w, Function.update c.progs none
        ((if x = .long (-1) then printlError (chars "Send topic failed: ")
          else sendMessage str quotes (hSocket none) notes.length) >>=
            fun _ => pure (notes.length + 1))⟩ t := by
  obtain ⟨buf, n, u, hbytes, hu, rfl, rfl⟩ := respond_zmqSendStr (h.ready none) (hSocket none)
    ZMQ_SNDMORE (by decide : 0 ∉ topic) (by decide) hw
  rcases R.more c.world.net buf n topic hbytes (by decide) with ⟨hrc, hl⟩ | ⟨hrc, hl⟩
  · rw [if_pos (by rw [hrc])]
    obtain ⟨t, hstep, hfollows⟩ := h.publisher_calls hnotes hnumbered h.carries rfl (fun _ => rfl)
      hl hu (.topicFailed (.errno rfl) rfl hpending hpublished)
    exact ⟨t, .single hstep, hfollows⟩
  · rw [if_neg (by simpa using hrc)]
    have hsent : (R.feed c.world.net).pending ++ [topic] = [topic] := by simp [hpending]
    obtain ⟨t, hstep, hfollows⟩ := h.publisher_calls hnotes hnumbered
      (x := (R.feed c.world.net).more topic) h.carries rfl (fun _ => rfl) hl hu
      (.topicSent rfl hsent hpublished)
    exact ⟨t, .single hstep, hfollows⟩

lemma Follows.sendMessage (hnum : WritesNumbers str) (h : Follows R str quotes c s)
    (hnotes : c.world.console none = notes.map (Note.publisherLine str quotes))
    (hnumbered : Numbered notes) (hpending : (R.feed c.world.net).pending = [topic])
    (hpublished : s.published = quotesOf notes) {x : Value}
    (hw : Processes.respondWhen H lib R.returns none c.world (.keyword .zmqSendStr
      [.int (hSocket none), .str (some (ScriptString.ofBytes (quoteText str quotes
        notes.length)).ptr), .int 0]) x w) :
    ∃ t, Relation.ReflTransGen Broadcast.Step s t ∧
      Follows R str quotes ⟨w, Function.update c.progs none
        ((if x = .long (-1) then printlError (chars "Send message failed: ")
          else printl (chars "Published: " ++ quoteText str quotes notes.length)) >>=
            fun _ => pure (notes.length + 1))⟩ t := by
  have hlen : (quoteText str quotes notes.length).length ≤ TB_RETURN_STRING_MAX :=
    (length_quoteText hnum _).2.trans (by decide)
  obtain ⟨buf, n, u, hbytes, hu, rfl, rfl⟩ := respond_zmqSendStr (h.ready none) (hSocket none)
    0 (zero_notMem_quoteText hnum _) hlen hw
  rcases R.last c.world.net buf n _ hbytes hlen with ⟨hrc, hl⟩ | ⟨hrc, hl⟩
  · rw [if_pos (by rw [hrc])]
    obtain ⟨t, hstep, hfollows⟩ := h.publisher_calls hnotes hnumbered h.carries rfl (fun _ => rfl)
      hl hu (.messageFailed (.errno rfl) rfl hpending hpublished)
    exact ⟨t, .single hstep, hfollows⟩
  · rw [if_neg (by simpa using hrc)]
    have hframes : (R.feed c.world.net).pending ++ [quoteText str quotes notes.length] =
        frames str quotes notes.length := by simp [hpending, frames]
    have hsent : (s.publish notes.length).published = quotesOf notes ++ [notes.length] := by
      simp [Broadcast.State.publish, hpublished]
    obtain ⟨t, hstep, hfollows⟩ := h.publisher_calls hnotes hnumbered (h.carries.last hframes) rfl
      (fun _ => rfl) hl hu (.messageSent rfl rfl hsent)
    exact ⟨t, .head (.publish _) (.single hstep), hfollows⟩

/-- The publisher ends a run of its loop with a line. -/
lemma Follows.publisher_prints (h : Follows R str quotes c s)
    (hnotes : c.world.console none = notes.map (Note.publisherLine str quotes))
    (hnumbered : Numbered notes) (note : Note) (hnote : ∀ j, note = .quote j → j = notes.length)
    (hpending : (R.feed c.world.net).pending = [])
    (hpublished : s.published = quotesOf (notes ++ [note])) :
    Follows R str quotes ⟨{ c.world with
      console := Function.update c.world.console none
        (c.world.console none ++ [note.publisherLine str quotes]) },
      Function.update c.progs none (pure (notes.length + 1))⟩ s := by
  have hlines : Function.update c.world.console none
      (c.world.console none ++ [note.publisherLine str quotes]) none =
        (notes ++ [note]).map (Note.publisherLine str quotes) := by simp [hnotes]
  have hprog : (pure (notes.length + 1) : Script ℕ) = pure (notes ++ [note]).length := by simp
  exact h.publisher_moves h.ready h.carries rfl (fun _ => rfl) (fun _ => by simp) hlines
    (hnumbered.concat hnote) (.done hprog hpending hpublished)

/-- What the publisher does next, unless it reports that it could not finish a message. -/
lemma Follows.publisher_step (hnum : WritesNumbers str) (h : Follows R str quotes c s)
    {r : ScriptCall} {next : r.Resp → Script ℕ} (hp : c.progs none = .ask r next) {x : r.Resp}
    (hw : Processes.respondWhen H lib R.returns none c.world r x w) :
    ∃ t, Relation.ReflTransGen Broadcast.Step s t ∧
      (Torn ⟨w, Function.update c.progs none (next x)⟩ ∨
        Follows R str quotes ⟨w, Function.update c.progs none (next x)⟩ t) := by
  obtain ⟨notes, hnotes, hnumbered, hat⟩ := h.publisher
  cases hat with
  | idle hprog hpending hpublished =>
    rw [hprog, pubRound_eq] at hp
    cases hp
    obtain ⟨t, ht, hfollows⟩ := h.sendTopic hnotes hnumbered hpending hpublished hw
    exact ⟨t, ht, Or.inr hfollows⟩
  | topicFailed hq hprog hpending hpublished =>
    obtain ⟨q', z, u, hq', hnext, hz, hu, rfl⟩ | ⟨msg, hnext, rfl⟩ :=
      hq.reply (hprog.symm.trans hp) (h.ready none) hw
    · rw [hnext]
      obtain ⟨t, ht, hfollows⟩ := h.publisher_calls hnotes hnumbered h.carries rfl (fun _ => rfl)
        (R.error _ none z hz) hu (.topicFailed hq' rfl hpending hpublished)
      exact ⟨t, .single ht, Or.inr hfollows⟩
    · rw [hnext]
      have hfollows := h.publisher_prints hnotes hnumbered (.failed msg) (by simp)
        hpending (by simpa using hpublished)
      exact ⟨s, .refl, Or.inr hfollows⟩
  | topicSent hprog hpending hpublished =>
    rw [hprog, sendMessage_eq] at hp
    cases hp
    obtain ⟨t, ht, hfollows⟩ := h.sendMessage hnum hnotes hnumbered hpending hpublished hw
    exact ⟨t, ht, Or.inr hfollows⟩
  | messageFailed hq hprog hpending hpublished =>
    obtain ⟨q', z, u, hq', hnext, hz, hu, rfl⟩ | ⟨msg, hnext, rfl⟩ :=
      hq.reply (hprog.symm.trans hp) (h.ready none) hw
    · rw [hnext]
      obtain ⟨t, ht, hfollows⟩ := h.publisher_calls hnotes hnumbered h.carries rfl (fun _ => rfl)
        (R.error _ none z hz) hu (.messageFailed hq' rfl hpending hpublished)
      exact ⟨t, .single ht, Or.inr hfollows⟩
    · refine ⟨s, .refl, Or.inl ⟨chars "Send message failed: " ++ msg, ?_, ?_⟩⟩
      · simp
      · exact List.prefix_append _ _
  | messageSent hprog hpending hpublished =>
    rw [hprog] at hp
    cases hp
    obtain rfl : w = _ := hw
    have hfollows := h.publisher_prints hnotes hnumbered (.quote notes.length) (by simp)
      hpending (by simpa using hpublished)
    exact ⟨s, .refl, Or.inr hfollows⟩
  | done hprog hpending hpublished =>
    rw [hprog] at hp
    cases hp

variable {k : κ}

/-- A subscriber comes back from a call, with what it did to the messages. -/
lemma Follows.subscriber_calls (h : Follows R str quotes c s)
    (hnotes : c.world.console (some k) = notes.map (Note.subscriberLine str quotes))
    {x : Broadcast.Feed κ (List UInt8)} {s' : Broadcast.State κ ℕ}
    (hx : Broadcast.Carries (frames str quotes) x s')
    (hpending : x.pending = (R.feed c.world.net).pending)
    (hpublished : s'.published = s.published)
    (hopened : ∀ j, j ≠ k → x.opened j = (R.feed c.world.net).opened j)
    (hgot : ∀ j, j ≠ k → (s'.subscriber j).got = (s.subscriber j).got) {l : L}
    (hl : x.Loses (R.feed l)) {u : Session L} (hu : u.Ready) {p : Script Unit}
    (hp : SubscriberAt str quotes (hSocket (some k)) p notes (x.opened k)
      (s'.subscriber k).got) :
    ∃ t, Broadcast.Step s' t ∧
      Follows R str quotes ⟨{ c.world with
        sessions := Function.update c.world.sessions (some k) u
        net := l }, Function.update c.progs (some k) p⟩ t := by
  obtain ⟨coming, hstep, hcarries⟩ := hx.loses hl
  rw [← hl.opened] at hp
  have hopened' : ∀ j, j ≠ k → (R.feed l).opened j = (R.feed c.world.net).opened j := by
    intro j hj
    rw [hl.opened, hopened j hj]
  exact ⟨_, hstep, h.subscriber_moves (ready_update h.ready _ hu) hcarries
    (hl.pending.trans hpending) hpublished hopened' hgot (fun _ _ => rfl) hnotes hp⟩

/-- A subscriber receives a topic, or fails between two messages. -/
lemma Follows.recvTopic (h : Follows R str quotes c s)
    (hnotes : c.world.console (some k) = notes.map (Note.subscriberLine str quotes))
    (hopened : (R.feed c.world.net).opened k = []) (hgot : (s.subscriber k).got = quotesOf notes)
    {v : Value} (hw : Processes.respondWhen H lib R.returns (some k) c.world (.keyword .zmqRecvStr
      [.int (hSocket (some k)), .int 256, .int 0]) v w) :
    ∃ t, Relation.ReflTransGen Broadcast.Step s t ∧
      Follows R str quotes ⟨w, Function.update c.progs (some k)
        (if v.chars.length = 0 then printlError (chars "Recv topic failed: ")
          else recvMessage (hSocket (some k)))⟩ t := by
  obtain ⟨x, o, y, hx, ho, hy, hrecv⟩ := R.recv c.world.net k
    (.arr (localArray TB_RETURN_STRING_MAX)) 256 (hw.1 rfl)
  obtain ⟨coming, hlose, hcarries⟩ := h.carries.loses hx
  have hempty : x.opened k = [] := by rw [hx.opened, hopened]
  cases ho with
  | next hnext =>
    rw [hempty] at hnext
    cases hnext
  | @first b rest queue _ hqueue =>
    obtain ⟨i, more, hm, htake, hcarries'⟩ := hcarries.first hqueue rest
    obtain ⟨rfl, rfl⟩ := List.cons.inj hm
    obtain ⟨rfl, u, hu, rfl⟩ := respond_zmqRecvStr (h.ready _) (hSocket (some k)) (by decide)
      (by decide) (by decide : topic.length ≤ (256 : LONG).toUInt32.toNat) hrecv hw
    have hat : SubscriberAt str quotes (hSocket (some k)) (recvMessage (hSocket (some k))) notes
        ((x.first k [quoteText str quotes i] queue).opened k)
        (((s.lose coming).take k i more).subscriber k).got := by
      refine .topicTaken i rfl ?_ ?_
      · simp [Broadcast.Feed.first, Broadcast.Feed.next]
      · simp [Broadcast.State.take, Broadcast.State.lose, hgot]
    obtain ⟨t, hstep, hfollows⟩ := h.subscriber_calls hnotes hcarries' hx.pending rfl
      (fun j hj => by simp [Broadcast.Feed.first, Broadcast.Feed.next, hj, hx.opened])
      (fun j hj => by simp [Broadcast.State.take, Broadcast.State.lose, hj]) hy hu hat
    exact ⟨t, .head hlose (.head htake (.single hstep)), hfollows⟩
  | failed _ =>
    obtain ⟨rfl, u, hu, rfl⟩ := respond_zmqRecvStr_failed (h.ready _) (hSocket (some k))
      (by decide) (by decide) hrecv hw
    obtain ⟨t, hstep, hfollows⟩ := h.subscriber_calls hnotes hcarries hx.pending rfl
      (fun j hj => by rw [hx.opened]) (fun j hj => rfl) hy hu
      (.topicFailed (.errno rfl) hempty hgot)
    exact ⟨t, .head hlose (.single hstep), hfollows⟩

/-- A subscriber that has received a topic receives the message, which is there. -/
lemma Follows.recvMessage (hnum : WritesNumbers str) (h : Follows R str quotes c s)
    (hnotes : c.world.console (some k) = notes.map (Note.subscriberLine str quotes)) {i : ℕ}
    (hopened : (R.feed c.world.net).opened k = [quoteText str quotes i])
    (hgot : (s.subscriber k).got = quotesOf notes ++ [i]) {v : Value}
    (hw : Processes.respondWhen H lib R.returns (some k) c.world (.keyword .zmqRecvStr
      [.int (hSocket (some k)), .int 256, .int 0]) v w) :
    ∃ t, Relation.ReflTransGen Broadcast.Step s t ∧
      Follows R str quotes ⟨w, Function.update c.progs (some k)
        (if v.chars.length = 0 then printlError (chars "Recv message failed: ")
          else printl v.chars)⟩ t := by
  obtain ⟨x, o, y, hx, ho, hy, hrecv⟩ := R.recv c.world.net k
    (.arr (localArray TB_RETURN_STRING_MAX)) 256 (hw.1 rfl)
  obtain ⟨coming, hlose, hcarries⟩ := h.carries.loses hx
  have hrest : x.opened k = [quoteText str quotes i] := by rw [hx.opened, hopened]
  cases ho with
  | @next b rest hnext =>
    obtain ⟨rfl, rfl⟩ := List.cons.inj (hrest.symm.trans hnext)
    have hlen := @length_quoteText str quotes hnum i
    obtain ⟨rfl, u, hu, rfl⟩ := respond_zmqRecvStr (h.ready _) (hSocket (some k)) (by decide)
      (by decide) hlen.2 hrecv hw
    have hat : SubscriberAt str quotes (hSocket (some k)) (printl (quoteText str quotes i)) notes
        ((x.next k []).opened k) ((s.lose coming).subscriber k).got :=
      .messageTaken i rfl (by simp [Broadcast.Feed.next]) hgot
    obtain ⟨t, hstep, hfollows⟩ := h.subscriber_calls hnotes (x := x.next k []) hcarries
      hx.pending rfl (fun j hj => by simp [Broadcast.Feed.next, hj, hx.opened])
      (fun j hj => rfl) hy hu hat
    refine ⟨t, .head hlose (.single hstep), ?_⟩
    have hne : ¬ (Value.bstr (some (quoteText str quotes i))).chars.length = 0 := hlen.1.ne'
    rw [if_neg hne]
    exact hfollows
  | first hempty _ =>
    rw [hrest] at hempty
    cases hempty
  | failed hempty =>
    rw [hrest] at hempty
    cases hempty

/-- A subscriber ends a run of its loop with a line. -/
lemma Follows.subscriber_prints (h : Follows R str quotes c s)
    (hnotes : c.world.console (some k) = notes.map (Note.subscriberLine str quotes)) (note : Note)
    (hopened : (R.feed c.world.net).opened k = [])
    (hgot : (s.subscriber k).got = quotesOf (notes ++ [note])) :
    Follows R str quotes ⟨{ c.world with
      console := Function.update c.world.console (some k)
        (c.world.console (some k) ++ [note.subscriberLine str quotes]) },
      Function.update c.progs (some k) (pure ())⟩ s := by
  have hlines : Function.update c.world.console (some k)
      (c.world.console (some k) ++ [note.subscriberLine str quotes]) (some k) =
        (notes ++ [note]).map (Note.subscriberLine str quotes) := by simp [hnotes]
  exact h.subscriber_moves h.ready h.carries rfl rfl (fun _ _ => rfl) (fun _ _ => rfl)
    (fun i hi => by simp [hi]) hlines (.done rfl hopened hgot)

lemma Follows.subscriber_step (hnum : WritesNumbers str) (h : Follows R str quotes c s)
    {r : ScriptCall} {next : r.Resp → Script Unit} (hp : c.progs (some k) = .ask r next)
    {x : r.Resp} (hw : Processes.respondWhen H lib R.returns (some k) c.world r x w) :
    ∃ t, Relation.ReflTransGen Broadcast.Step s t ∧
      Follows R str quotes ⟨w, Function.update c.progs (some k) (next x)⟩ t := by
  obtain ⟨notes, hnotes, hat⟩ := h.subscriber k
  cases hat with
  | idle hprog hopened hgot =>
    rw [hprog, subClient_eq] at hp
    cases hp
    exact h.recvTopic hnotes hopened hgot hw
  | topicFailed hq hopened hgot =>
    obtain ⟨q', z, u, hq', hnext, hz, hu, rfl⟩ | ⟨msg, hnext, rfl⟩ :=
      hq.reply ((bind_pure _).trans hp) (h.ready (some k)) hw
    · rw [hnext, bind_pure]
      obtain ⟨t, ht, hfollows⟩ := h.subscriber_calls hnotes h.carries rfl rfl (fun _ _ => rfl)
        (fun _ _ => rfl) (R.error _ (some k) z hz) hu (.topicFailed hq' hopened hgot)
      exact ⟨t, .single ht, hfollows⟩
    · rw [hnext]
      exact ⟨s, .refl, h.subscriber_prints hnotes (.failed msg) hopened
        (by simpa using hgot)⟩
  | topicTaken i hprog hopened hgot =>
    rw [hprog, recvMessage_eq] at hp
    cases hp
    exact h.recvMessage hnum hnotes hopened hgot hw
  | messageTaken i hprog hopened hgot =>
    rw [hprog] at hp
    cases hp
    obtain rfl : w = _ := hw
    exact ⟨s, .refl, h.subscriber_prints hnotes (.quote i) hopened (by simpa using hgot)⟩
  | done hprog hopened hgot =>
    rw [hprog] at hp
    cases hp

variable {c' : Scripts κ L}

lemma Torn.step (h : Torn c) (hs : (processes H R str quotes).Step c c') : Torn c' := by
  obtain ⟨line, hline, htext⟩ := h
  cases hs with
  | reply _ hw => exact ⟨line, (console_grows hw none).subset hline, htext⟩
  | again _ _ => exact ⟨line, hline, htext⟩

/-- Every step is some steps of the broadcast, unless a message was not finished. -/
theorem follows_step (H : Option κ → Host) (hnum : WritesNumbers str) :
    Simulates (fun c s => Torn c ∨ Follows R str quotes c s) (processes H R str quotes).Step
      (Relation.ReflTransGen Broadcast.Step) := by
  rintro c s c' (htorn | h) hstep
  · exact ⟨s, .refl, Or.inl (htorn.step hstep)⟩
  cases hstep with
  | @reply i r next x w hp hw =>
    cases i with
    | none => exact h.publisher_step hnum hp hw
    | some k =>
      obtain ⟨t, ht, hfollows⟩ := h.subscriber_step hnum hp hw
      exact ⟨t, ht, Or.inr hfollows⟩
  | @again i st p hp hag =>
    refine ⟨s, .refl, Or.inr ?_⟩
    cases i with
    | none =>
      cases hag
      obtain ⟨notes, hnotes, hnumbered, hat⟩ := h.publisher
      obtain ⟨rfl, hpending, hpublished⟩ := hat.of_done hp
      exact h.publisher_moves h.ready h.carries rfl (fun _ => rfl) (fun _ => rfl) hnotes
        hnumbered (.idle rfl hpending hpublished)
    | some k =>
      cases hag
      obtain ⟨notes, hnotes, hat⟩ := h.subscriber k
      obtain ⟨hopened, hgot⟩ := hat.of_done hp
      exact h.subscriber_moves h.ready h.carries rfl rfl (fun _ _ => rfl) (fun _ _ => rfl)
        (fun _ _ => rfl) hnotes (.idle rfl hopened hgot)

/-- The scripts start to follow. -/
lemma follows_start {w : Processes κ L} (hw : Fresh R w) :
    Follows R str quotes ⟨w, scripts str quotes hSocket⟩ Broadcast.start where
  ready := hw.ready
  carries k := by rw [hw.feed]; rfl
  publisher := ⟨[], hw.console none, fun i j hij => by simp at hij,
    .idle rfl (by rw [hw.feed]; rfl) rfl⟩
  subscriber k := ⟨[], hw.console (some k), .idle rfl (by rw [hw.feed]; rfl) rfl⟩

/-- What a publisher with such a program has sent whole: what it has printed, and behind its last
call the quote that it is about to print. -/
inductive Sent (str : LONG → List UInt8) (quotes : ℕ → LONG × LONG) (p : Script ℕ)
    (notes : List Note) : List ℕ → Prop
  | printed : Sent str quotes p notes (quotesOf notes)
  | printing : p = printl (chars "Published: " ++ quoteText str quotes notes.length) >>=
      (fun _ => pure (notes.length + 1)) →
      Sent str quotes p notes (quotesOf notes ++ [notes.length])

/-- What was printed: one line for every run of a loop, and quotes only in the order in which the
publisher has sent them. -/
structure Reported (str : LONG → List UInt8) (quotes : ℕ → LONG × LONG)
    (notes : Option κ → List Note) (c : Scripts κ L) : Prop where
  publisher : c.world.console none = (notes none).map (Note.publisherLine str quotes)
  numbered : Numbered (notes none)
  subscriber : ∀ k, c.world.console (some k) =
    (notes (some k)).map (Note.subscriberLine str quotes)
  inOrder : ∃ sent, Sent str quotes (c.progs none) (notes none) sent ∧
    ∀ k, (quotesOf (notes (some k))).Sublist sent

lemma PublisherAt.sent {h : LONG} {p : Script ℕ} {notes : List Note}
    {pending : List (List UInt8)} {published : List ℕ}
    (hat : PublisherAt str quotes h p notes pending published) :
    Sent str quotes p notes published := by
  cases hat with
  | messageSent hprog _ hpublished =>
    rw [hpublished]
    exact .printing hprog
  | _ =>
    subst_vars
    exact .printed

lemma SubscriberAt.quotes_sublist {h : LONG} {p : Script Unit} {notes : List Note}
    {opened : List (List UInt8)} {got : List ℕ}
    (hat : SubscriberAt str quotes h p notes opened got) : (quotesOf notes).Sublist got := by
  cases hat <;> subst_vars <;> simp

lemma Follows.reported (h : Follows R str quotes c s)
    (hs : Relation.ReflTransGen Broadcast.Step Broadcast.start s) :
    ∃ notes, Reported str quotes notes c := by
  obtain ⟨pnotes, hpnotes, hnumbered, hpat⟩ := h.publisher
  choose snotes hsnotes hsat using h.subscriber
  refine ⟨fun i => i.elim pnotes snotes, hpnotes, hnumbered, hsnotes, s.published, hpat.sent, ?_⟩
  intro k
  exact (hsat k).quotes_sublist.trans (Broadcast.got_sublist hs k)

/-- However the processes are scheduled, whichever messages get lost and whichever calls fail, as
long as the publisher has not reported that it could not finish a message, every subscriber has
printed only quotes that were sent, each at most once, in the order in which they were sent. -/
theorem quotes_printed_in_order (H : Option κ → Host) (R : PubSub lib hSocket)
    (hnum : WritesNumbers str) (quotes : ℕ → LONG × LONG) {w : Processes κ L} (hw : Fresh R w)
    {c : Scripts κ L}
    (hc : (processes H R str quotes).Reachable ⟨w, scripts str quotes hSocket⟩ c)
    (hwhole : ∀ line ∈ c.world.console none, ¬ chars "Send message failed: " <+: line) :
    ∃ notes, Reported str quotes notes c := by
  obtain ⟨s, hs, htorn | hfollows⟩ :=
    (follows_step H hnum).reachable (Or.inr (follows_start hw)) hc
  · obtain ⟨line, hline, htext⟩ := htorn
    exact absurd htext (hwhole line hline)
  · rw [Relation.reflTransGen_eq_self] at hs
    exact hfollows.reported hs

/-- Sockets that lose nothing. -/
def feedLibrary {n : ℕ} : Option (Fin n) → Library (Broadcast.Feed (Fin n) (List UInt8))
  | none, .send _ buf len flags, x =>
    match buf.bytes len.toNat with
    | some b => (Int32.ofNat b.length, if flags = ZMQ_SNDMORE then x.more b else x.last b)
    | none => ((-1 : LONG), x)
  | some k, .recv _ _ len _, x =>
    match x.opened k, x.queue k with
    | b :: rest, _ => ((Int32.ofNat b.length, b.take len.toNat), x.next k rest)
    | [], (b :: rest) :: queue => ((Int32.ofNat b.length, b.take len.toNat), x.first k rest queue)
    | [], _ => (((-1 : LONG), []), x)
  | _, c, x => (c.failed, x)

def feedSockets {n : ℕ} (hSocket : Option (Fin n) → LONG) : PubSub feedLibrary hSocket where
  feed := id
  returns x i := ∀ k, i = some k → x.opened k ≠ [] ∨ x.queue k ≠ []
  more l buf n b hbytes hb := by
    refine Or.inr ⟨?_, ?_⟩
    · simpa [feedLibrary, hbytes] using ofNat_length_ne hb
    · simpa [feedLibrary, hbytes] using Broadcast.Feed.Loses.refl _
  last l buf n b hbytes hb := by
    have hflags : ¬ (0 : LONG) = ZMQ_SNDMORE := by decide
    refine Or.inr ⟨?_, ?_⟩
    · simpa [feedLibrary, hbytes] using ofNat_length_ne hb
    · simpa [feedLibrary, hbytes, hflags] using Broadcast.Feed.Loses.refl _
  recv l k buf n _ := by
    cases hopened : l.opened k with
    | cons b rest =>
      refine ⟨l, some b, _, .refl l, .next hopened, ?_, ?_⟩
      · simpa [feedLibrary, hopened] using Broadcast.Feed.Loses.refl _
      · simp [feedLibrary, hopened, received]
    | nil =>
      match hqueue : l.queue k with
      | (b :: rest) :: queue =>
        refine ⟨l, some b, _, .refl l, .first hopened hqueue, ?_, ?_⟩
        · simpa [feedLibrary, hopened, hqueue] using Broadcast.Feed.Loses.refl _
        · simp [feedLibrary, hopened, hqueue, received]
      | [] :: queue =>
        refine ⟨l, none, _, .refl l, .failed hopened, ?_, ?_⟩
        · simpa [feedLibrary, hopened, hqueue] using Broadcast.Feed.Loses.refl _
        · simp [feedLibrary, hopened, hqueue, received]
      | [] =>
        refine ⟨l, none, _, .refl l, .failed hopened, ?_, ?_⟩
        · simpa [feedLibrary, hopened, hqueue] using Broadcast.Feed.Loses.refl _
        · simp [feedLibrary, hopened, hqueue, received]
  error l i c hc := by
    cases i <;> cases c <;> first | exact hc.elim | exact Broadcast.Feed.Loses.refl _

def twoSubscribers : Processes (Fin 2) (Broadcast.Feed (Fin 2) (List UInt8)) where
  sessions _ := Session.resolved .empty
  console _ := []
  net := .empty

lemma fresh_twoSubscribers (h : LONG) : Fresh (feedSockets fun _ => h) twoSubscribers where
  ready _ := Session.ready_resolved _
  console _ := rfl
  feed := by
    unfold feedSockets
    rfl

def opening : Scripts (Fin 2) (Broadcast.Feed (Fin 2) (List UInt8)) where
  world := twoSubscribers
  progs := scripts decimal (fun _ => (1234, 1240)) fun _ => 1

instance (x : Broadcast.Feed (Fin 2) (List UInt8)) (i : Option (Fin 2)) :
    Decidable ((feedSockets fun _ : Option (Fin 2) => (1 : LONG)).returns x i) :=
  inferInstanceAs (Decidable (∀ k, i = some k → x.opened k ≠ [] ∨ x.queue k ≠ []))

/-- A subscriber prints a quote before the publisher has printed that it was sent. -/
theorem quotes_printed_in_order_two_subscribers :
    ∃ c, (processes (fun _ => Host.bare) (feedSockets fun _ => 1) decimal
        fun _ => (1234, 1240)).Reachable opening c ∧
      c.world.console none = [] ∧ c.world.console (some 0) = [chars "Bid:1234,Ask:1240"] ∧
      ∃ notes, Reported decimal (fun _ => (1234, 1240)) notes c := by
  have hconsoles : (((processes (fun _ => Host.bare) (feedSockets fun _ => 1) decimal
      fun _ => (1234, 1240)).schedule
        (Processes.answerWhen (fun _ => Host.bare) feedLibrary (feedSockets fun _ => 1).returns)
        opening [none, none, some 0, some 0, some 0]).map
          fun c => (c.world.console none, c.world.console (some 0))) =
            some ([], [chars "Bid:1234,Ask:1240"]) := by
    decide +kernel
  obtain ⟨c, hc, hprinted⟩ := Option.map_eq_some_iff.mp hconsoles
  obtain ⟨hpublisher, hsubscriber⟩ := Prod.mk.inj hprinted
  have hreach := Parties.reachable_of_schedule (Processes.respond_answerWhen _ _ _) hc
  refine ⟨c, hreach, hpublisher, hsubscriber, ?_⟩
  exact quotes_printed_in_order (fun _ => Host.bare) (feedSockets fun _ => 1)
    writesNumbers_decimal _ (fresh_twoSubscribers 1) hreach
    fun line hline => by simp [hpublisher] at hline

end PubSub

end ThinBasicZmq
