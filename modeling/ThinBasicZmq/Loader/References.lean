import ThinBasicZmq.Interaction.Execution
import ThinBasicZmq.Loader.World

/-!
# References and the search directory

The state of the process loader that several libraries share: how often each is referenced,
where it is mapped, and the directory that was set with `SetDllDirectoryA`.
-/

namespace ThinBasicZmq

open Interaction Environment

structure Loader where
  count : Dll → ℕ
  base : Dll → Ptr
  /-- The argument of the last `SetDllDirectoryA`, `none` for `NULL`, the default. -/
  directory : Option (List Cell)
  /-- The calls of `LoadLibraryA` and their results, newest first. -/
  calls : List (List Cell × Option HMODULE)

namespace Loader

/-- The handle of a library that is mapped. -/
def handle (l : Loader) (d : Dll) : Option HMODULE :=
  if l.count d = 0 then none else some ⟨d, l.base d⟩

/-- The references that `LoadLibraryA` has handed out. -/
def taken (l : Loader) (d : Dll) : ℕ :=
  l.calls.countP fun c => dllOf c.1 = d ∧ c.2.isSome

/-- `LoadLibraryA` fails. -/
def miss (l : Loader) (path : List Cell) : Loader := { l with calls := (path, none) :: l.calls }

/-- `LoadLibraryA` returns `m`. -/
def map (l : Loader) (path : List Cell) (m : HMODULE) : Loader where
  count := Function.update l.count m.dll (l.count m.dll + 1)
  base := Function.update l.base m.dll m.base
  directory := l.directory
  calls := (path, some m) :: l.calls

/-- `FreeLibrary` of a handle, which has to be the current one. -/
def unmap (l : Loader) : Option HMODULE → Loader
  | none => l
  | some m =>
    if l.handle m.dll = some m then
      { l with count := Function.update l.count m.dll (l.count m.dll - 1) }
    else l

/-- A library that is mapped stays where it is. -/
def Responds (l : Loader) : (r : Req) → r.Resp → Loader → Prop
  | .loadLibrary path, x, l' => x = none ∧ l' = l.miss path ∨
    ∃ m : HMODULE, m.dll = dllOf path ∧ (l.count m.dll ≠ 0 → m.base = l.base m.dll) ∧
      x = some m ∧ l' = l.map path m
  | .freeLibrary m, _, l' => l' = l.unmap m
  | .getModuleHandle name, x, l' => x = l.handle (dllOf name) ∧ l' = l
  | .setDllDirectory path, _, l' => l' = { l with directory := path }
  | .readZmq, _, l' | .writeZmq _, _, l' | .readTb, _, l' | .writeTb _, _, l'
  | .getProcAddress _ _, _, l' | .enter _, _, l' | .host _ _, _, l' | .zmq _ _, _, l'
  | .allocBstr _ _, _, l' | .store _ _ _, _, l' | .fetch _ _ _, _, l' | .literalAddr _, _, l' =>
    l' = l

end Loader

@[simp] lemma World.zmq_load (w : World) (m : HMODULE) : (w.load m).zmq = w.zmq := by
  unfold World.load
  split <;> rfl

@[simp] lemma World.tb_load (w : World) (m : HMODULE) : (w.load m).tb = w.tb := by
  unfold World.load
  split <;> rfl

/-- The two tables and the loader. -/
structure Process where
  world : World
  loader : Loader

/-- The environment of the whole process: the loader answers, within what the world allows. -/
def counted : Environment Req.Resp Process where
  respond s r x s' := s.world.Responds r x s'.world ∧ s.loader.Responds r x s'.loader

namespace Process

def withZmq (s : Process) (t : ZmqApiTable) : Process :=
  { s with world := { s.world with zmq := t } }

def withTb (s : Process) (t : TbThincoreApi) : Process :=
  { s with world := { s.world with tb := t } }

end Process

/-- Every execution from `s` keeps to `J` and ends with `Q`. -/
abbrev EnsuresFrom {α : Type} (J : Loader → Prop) (Q : α → Process → Prop) (p : Sdk α)
    (s : Process) : Prop :=
  counted.Ensures (fun s => J s.loader) Q p s

/-- Requests that change neither the tables nor the loader. -/
def Passive : Req → Prop
  | .writeZmq _ | .writeTb _ | .loadLibrary _ | .freeLibrary _ | .setDllDirectory _ => False
  | _ => True

lemma respond_passive (r : Req) (x : r.Resp) (s s' : Process) (hr : Passive r)
    (h : counted.respond s r x s') : s' = s := by
  obtain ⟨w, l⟩ := s
  obtain ⟨w', l'⟩ := s'
  obtain ⟨hw, hl⟩ := h
  cases r with
  | writeZmq | writeTb | loadLibrary | freeLibrary | setDllDirectory => exact hr.elim
  | readZmq | readTb | getProcAddress =>
    obtain ⟨-, rfl⟩ := hw
    obtain rfl : l' = l := hl
    rfl
  | getModuleHandle =>
    obtain ⟨-, rfl⟩ := hw
    obtain ⟨-, rfl⟩ := hl
    rfl
  | enter | host | zmq | allocBstr | store | fetch | literalAddr =>
    obtain rfl : w' = w := hw
    obtain rfl : l' = l := hl
    rfl

variable {α β : Type} {J : Loader → Prop} {Q : α → Process → Prop} {s : Process}

lemma ensures_passive {p : Sdk α} (hp : p.Only Passive) (hJ : J s.loader) (hQ : ∀ a, Q a s) :
    EnsuresFrom J Q p s :=
  ensures_of_only (fun r x s' => respond_passive r x _ s') hp hJ hQ

lemma ensures_bind_passive {p : Sdk β} {f : β → Sdk α} (hp : p.Only Passive) (hJ : J s.loader)
    (h : ∀ b, EnsuresFrom J Q (f b) s) : EnsuresFrom J Q (p >>= f) s :=
  ensures_bind (ensures_passive hp hJ h)

lemma ensures_ask_passive {r : Req} {f : r.Resp → Sdk α} (hr : Passive r) (hJ : J s.loader)
    (h : ∀ x, EnsuresFrom J Q (f x) s) : EnsuresFrom J Q (ask r >>= f) s :=
  ensures_bind_passive ⟨hr, fun _ => trivial⟩ hJ h

lemma ensures_ask {r : Req} {f : r.Resp → Sdk α} (hJ : J s.loader)
    (h : ∀ x s', counted.respond s r x s' → EnsuresFrom J Q (f x) s') :
    EnsuresFrom J Q (ask r >>= f) s := ⟨hJ, h⟩

lemma ensures_readZmq {f : ZmqApiTable → Sdk α} (hJ : J s.loader)
    (h : EnsuresFrom J Q (f s.world.zmq) s) : EnsuresFrom J Q (ask .readZmq >>= f) s := by
  apply ensures_ask hJ
  rintro x s' hx
  have hs := respond_passive _ x _ _ trivial hx
  obtain ⟨⟨hread, -⟩, -⟩ := hx
  rw [hs, show x = s.world.zmq from hread]
  exact h

lemma ensures_readTb {f : TbThincoreApi → Sdk α} (hJ : J s.loader)
    (h : EnsuresFrom J Q (f s.world.tb) s) : EnsuresFrom J Q (ask .readTb >>= f) s := by
  apply ensures_ask hJ
  rintro x s' hx
  have hs := respond_passive _ x _ _ trivial hx
  obtain ⟨⟨hread, -⟩, -⟩ := hx
  rw [hs, show x = s.world.tb from hread]
  exact h

lemma ensures_getModuleHandle {name : List Cell} {f : Option HMODULE → Sdk α} (hJ : J s.loader)
    (h : EnsuresFrom J Q (f (s.loader.handle (dllOf name))) s) :
    EnsuresFrom J Q (ask (.getModuleHandle name) >>= f) s := by
  apply ensures_ask hJ
  rintro x s' hx
  have hs := respond_passive _ x _ _ trivial hx
  obtain ⟨-, hread, -⟩ := hx
  rw [hs, show x = s.loader.handle (dllOf name) from hread]
  exact h

lemma ensures_writeZmq {t : ZmqApiTable} {f : Unit → Sdk α} (hJ : J s.loader)
    (h : EnsuresFrom J Q (f ()) (s.withZmq t)) : EnsuresFrom J Q (ask (.writeZmq t) >>= f) s := by
  apply ensures_ask hJ
  rintro x ⟨w', l'⟩ ⟨rfl, rfl⟩
  exact h

lemma ensures_writeTb {t : TbThincoreApi} {f : Unit → Sdk α} (hJ : J s.loader)
    (h : EnsuresFrom J Q (f ()) (s.withTb t)) : EnsuresFrom J Q (ask (.writeTb t) >>= f) s := by
  apply ensures_ask hJ
  rintro x ⟨w', l'⟩ ⟨rfl, rfl⟩
  exact h

lemma ensures_setDllDirectory {path : Option (List Cell)} {f : Unit → Sdk α} (hJ : J s.loader)
    (h : EnsuresFrom J Q (f ()) ⟨s.world, { s.loader with directory := path }⟩) :
    EnsuresFrom J Q (ask (.setDllDirectory path) >>= f) s := by
  apply ensures_ask hJ
  rintro x ⟨w', l'⟩ ⟨rfl, rfl⟩
  exact h

lemma ensures_freeLibrary {m : Option HMODULE} {f : Unit → Sdk α} (hJ : J s.loader)
    (h : EnsuresFrom J Q (f ()) ⟨s.world.free m, s.loader.unmap m⟩) :
    EnsuresFrom J Q (ask (.freeLibrary m) >>= f) s := by
  apply ensures_ask hJ
  rintro x ⟨w', l'⟩ ⟨rfl, rfl⟩
  exact h

lemma ensures_loadLibrary {path : List Cell} {f : Option HMODULE → Sdk α} (hJ : J s.loader)
    (hmiss : EnsuresFrom J Q (f none) ⟨s.world, s.loader.miss path⟩)
    (hmap : ∀ m : HMODULE, m.dll = dllOf path →
      EnsuresFrom J Q (f (some m)) ⟨s.world.load m, s.loader.map path m⟩) :
    EnsuresFrom J Q (ask (.loadLibrary path) >>= f) s := by
  apply ensures_ask hJ
  rintro x ⟨w', l'⟩ ⟨⟨rfl, rfl⟩ | ⟨m, hm, rfl, rfl⟩, ⟨hx, rfl⟩ | ⟨m', -, -, hx, rfl⟩⟩
  · exact hmiss
  · cases hx
  · cases hx
  · obtain rfl := Option.some.inj hx
    exact hmap m hm

namespace Loader

variable {l : Loader} {path : List Cell} {m : HMODULE} {d : Dll}

@[simp] lemma count_map_self : (l.map path m).count m.dll = l.count m.dll + 1 :=
  Function.update_self _ _ _

@[simp] lemma count_map_of_ne (h : d ≠ m.dll) : (l.map path m).count d = l.count d :=
  Function.update_of_ne h _ _

@[simp] lemma base_map_self : (l.map path m).base m.dll = m.base := Function.update_self _ _ _

@[simp] lemma base_map_of_ne (h : d ≠ m.dll) : (l.map path m).base d = l.base d :=
  Function.update_of_ne h _ _

lemma handle_map_self : (l.map path m).handle m.dll = some m := by
  rw [handle, count_map_self, if_neg (Nat.succ_ne_zero _), base_map_self]

lemma handle_map_of_ne (h : d ≠ m.dll) : (l.map path m).handle d = l.handle d := by
  rw [handle, count_map_of_ne h, base_map_of_ne h, handle]

lemma unmap_of_handle (h : l.handle m.dll = some m) : l.unmap (some m) =
    { l with count := Function.update l.count m.dll (l.count m.dll - 1) } := if_pos h

@[simp] lemma calls_unmap (m : Option HMODULE) : (l.unmap m).calls = l.calls := by
  unfold unmap
  split
  · rfl
  · split <;> rfl

/-- A reference that is given back is not held any more. -/
lemma count_unmap_map : ((l.map path m).unmap (some m)).count = l.count := by
  have hidem : Function.update (l.map path m).count m.dll (l.count m.dll) = l.count := by
    change Function.update (Function.update l.count m.dll _) m.dll (l.count m.dll) = l.count
    rw [Function.update_idem, Function.update_eq_self]
  rw [unmap_of_handle handle_map_self, count_map_self, Nat.add_sub_cancel]
  exact hidem

end Loader

end ThinBasicZmq
