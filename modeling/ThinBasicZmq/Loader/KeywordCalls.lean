import ThinBasicZmq.Keywords.Actions
import ThinBasicZmq.Loader.LibraryState

/-!
# The calls of the keywords

A keyword calls only through slots that the tables say are resolved. The tables are read
right before each call, after the arguments, so other keywords may change them in between.
-/

namespace ThinBasicZmq

open Interaction System

variable {α : Type} {w : World}

/-- Safe from every world in which keywords run, and back to such a world with such a result. -/
def Sound (p : Sdk α) (Q : α → Prop) : Prop :=
  ∀ w : World, w.Busy → SafeFrom (fun a w' => w'.Busy ∧ Q a) p w

lemma calculus_sound : Prog.Calculus fun {_} (p : Sdk _) Q => Sound p Q where
  ret hQ _ hw := ⟨hw, hQ⟩
  bind hp hf := by
    intro w hw
    apply safe_bind.mpr
    apply (hp w hw).mono
    rintro a w' ⟨hw', ha⟩
    exact hf a ha w' hw'

lemma sound_map {β : Type} {p : Sdk α} (hp : Sound p fun _ => True) (f : α → β) :
    Sound (f <$> p) fun _ => True := calculus_sound.map hp fun _ _ => trivial

lemma sound_of_harmless {p : Sdk α} {Q : α → Prop}
    (hp : p.Guarantees (fun _ _ => True) Harmless Q) : Sound p Q := by
  intro w hw
  exact safe_of_harmless (hp.mono fun a ha => ⟨hw, ha⟩)

lemma HostCall.symbol_mem (c : HostCall) : c.symbol ∈ tbRequiredSymbols := by
  cases c <;> simp [symbol, tbRequiredSymbols]

/-- The host is called through the slot of the table, and may run keywords before it answers. -/
lemma sound_tbCall (c : HostCall) : Sound (tbCall c) fun _ => True := by
  intro w hw
  unfold tbCall
  apply safe_readTb
  have hfault : ∀ w', ¬ process.fault w' (.host (w.tb.fn c.symbol) c) := by
    intro w'
    exact not_not.mpr (hw.tbInv.required hw.ready c.symbol c.symbol_mem)
  refine ⟨hfault w, ?_, ?_⟩
  · intro _
    refine ⟨hw, fun w' hw' => ⟨hfault w', ?_⟩⟩
    rintro x w'' (hx : w'' = w')
    rw [hx]
    exact ⟨hw', trivial⟩
  · rintro - x w' (hx : w' = w)
    rw [hx]
    exact ⟨hw, trivial⟩

/-- A call through a slot that was resolved from the mapped library. -/
lemma safe_zmq {m : HMODULE} {c : ZmqCall} {Q : c.Resp → Prop} (hw : w.Busy) (hm : w.LoadedFrom m)
    (hfn : w.zmq.fn c.symbol ≠ none) (hQ : ∀ x, Q x) :
    SafeFrom (fun x w' => w'.Busy ∧ Q x) (ask (.zmq (w.zmq.fn c.symbol) c)) w := by
  apply (safe_request id).mpr
  refine ⟨not_not.mpr ⟨m, ?_, hm.dll, (hm.live_iff m).mpr rfl⟩, ?_⟩
  · exact (hm.resolved c.symbol).resolve_left hfn
  · rintro x w' (hx : w' = w)
    rw [hx]
    exact ⟨hw, hQ x⟩

lemma World.Busy.loadedFrom (hw : w.Busy) (h : w.zmq.loaded ≠ 0) : ∃ m, w.LoadedFrom m := by
  rcases hw.zmqInv with ⟨hzero, -⟩ | hm
  · exact absurd (by rw [hzero]; rfl) h
  · exact hm

lemma sound_zmqApi {c : ZmqCall} {notLoaded : Sdk c.Resp} {Q : c.Resp → Prop}
    (hc : c.symbol ∈ zmqRequiredSymbols) (hn : Sound notLoaded Q) (hQ : ∀ x, Q x) :
    Sound (zmqApi c notLoaded) Q := by
  intro w hw
  apply safe_harmless
  · trivial
  intro _
  apply safe_readZmq
  apply safe_ite
  · intro hloaded
    obtain ⟨m, hm⟩ := hw.loadedFrom hloaded
    exact safe_zmq hw hm (hm.required _ hc) hQ
  · intro _
    exact hn w hw

/-- The functions that may be missing check their slot themselves. -/
lemma sound_zmqApiOptional {c : ZmqCall} {args : List Ref} {failed : c.Resp} {Q : c.Resp → Prop}
    (hQ : ∀ x, Q x) : Sound (zmqApiOptional c args failed) Q := by
  intro w hw
  apply safe_harmless
  · trivial
  intro _
  apply safe_readZmq
  apply safe_ite
  · intro _
    exact ⟨hw, hQ _⟩
  · intro h
    simp only [not_or] at h
    obtain ⟨hloaded, hfn, -⟩ := h
    obtain ⟨m, hm⟩ := hw.loadedFrom hloaded
    exact safe_zmq hw hm hfn hQ

lemma safe_allocBstr {sz : List UInt8} (hw : w.Busy) (hfn : w.tb.fn .allocBstr ≠ none) :
    SafeFrom (fun _ w' => w'.Busy ∧ True) (allocBstr (w.tb.fn .allocBstr) sz) w := by
  apply safe_bind.mpr
  apply (safe_request id).mpr
  constructor
  · exact not_not.mpr (hw.tbInv.alloc.resolve_left hfn)
  · rintro x w' (hx : w' = w)
    rw [hx]
    exact ⟨hw, trivial⟩

lemma sound_tbReturnStringN (sz : Option (List Cell)) (len : ℕ) :
    Sound (tbReturnStringN sz len) fun _ => True := by
  intro w hw
  unfold tbReturnStringN
  apply safe_readTb
  apply safe_ite
  · intro _
    exact ⟨hw, trivial⟩
  intro hfn
  have halloc (bytes : List UInt8) := @safe_allocBstr w bytes hw hfn
  cases sz with
  | none => exact halloc []
  | some sz =>
    apply safe_ite
    · intro _
      exact halloc []
    intro _
    apply safe_ite
    · intro _
      exact halloc []
    intro _
    apply safe_bind_of_harmless (fetchBytes_only (fun _ _ _ => trivial) _ _ _)
    exact halloc

lemma sound_tbReturnString (sz : List Cell) : Sound (tbReturnString (some sz)) fun _ => True := by
  have hfetch : Sound (fetch sz 0) fun _ => True :=
    sound_of_harmless ((fetch_only (fun _ _ _ => trivial) _ _).guarantees fun _ => id)
  have hscan : Sound (scanNul sz TB_RETURN_STRING_MAX 0) fun _ => True :=
    sound_of_harmless ((scanNul_only (fun _ _ _ => trivial) _ _ _).guarantees fun _ => id)
  apply calculus_sound.bind hfetch
  intro b _
  apply Prog.Calculus.ite fun _ => sound_tbReturnStringN _ _
  intro _
  apply calculus_sound.bind hscan
  intro len _
  exact Prog.Calculus.ite (fun _ => calculus_sound.ret trivial) fun _ => sound_tbReturnStringN _ _

lemma StoreWithin.harmless {cap : ℕ} {r : Req} (h : StoreWithin cap r) : Harmless r := by
  cases r <;> trivial

/-- Nothing has to be known of what libzmq answers. -/
lemma closed_sound : Closed False fun {_} (p : Sdk _) Q => Sound p Q where
  toCalculus := calculus_sound
  isLoaded := by
    intro w hw
    apply safe_harmless
    · trivial
    intro _
    exact safe_readZmq ⟨hw, trivial⟩
  literal := sound_of_harmless ⟨trivial, fun _ _ => trivial⟩
  writes hp hQ := sound_of_harmless (hp.guarantees (fun _ => StoreWithin.harmless) hQ)
  api hc _ hn :=
    sound_zmqApi (List.mem_of_elem_eq_true hc) (calculus_sound.mono hn fun _ _ => False.elim)
      fun _ => False.elim
  optional _ _ := sound_zmqApiOptional fun _ => False.elim
  returns _ := sound_tbReturnString _
  returnsN _ := sound_tbReturnStringN _ _

lemma sound_failure {sig : List Param} (b : Body sig) : Sound b.failure fun _ => True := by
  cases b with
  | long fail act => exact calculus_sound.ret trivial
  | bstr act => exact sound_map closed_sound.tbReturnEmpty _

/-- The loader functions leave `g_tb` alone. -/
lemma sound_of_zmqInv {p : Sdk α}
    (h : ∀ w : World, w.ZmqInv → SafeFrom (fun _ w' => w'.ZmqInv ∧ w'.tb = w.tb) p w) :
    Sound p fun _ => True := by
  intro w hw
  apply (h w hw.zmqInv).mono
  rintro _ w' ⟨hz, ht⟩
  refine ⟨⟨⟨hz, hw.tbInv.of_eq ht⟩, ?_⟩, trivial⟩
  rw [ht]
  exact hw.ready

/-- The operation of a keyword is sound. -/
lemma sound_action (k : Keyword) (args : Args k.signature) :
    Sound (k.body.action args) fun _ => True := by
  by_cases hinit : k = .zmqLibraryInit
  · subst hinit
    exact sound_map (sound_of_zmqInv fun _ hw => safe_zmqDynLoadDirectory hw _ _) _
  by_cases hshutdown : k = .zmqLibraryShutdown
  · subst hshutdown
    have hunload : Sound zmqDynUnload fun _ => True :=
      sound_of_zmqInv fun _ hw => safe_zmqDynUnload hw
    exact sound_map (calculus_sound.bind hunload fun _ _ => calculus_sound.ret trivial) _
  · exact closed_sound.action hinit hshutdown args

theorem sound_exec (k : Keyword) : Sound k.exec fun _ => True := by
  rw [k.exec_eq_transact]
  exact asks_transact calculus_sound (fun c _ => sound_tbCall c) (sound_failure _) (sound_action k)

end ThinBasicZmq
