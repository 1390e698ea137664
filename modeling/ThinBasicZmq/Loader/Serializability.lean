import ThinBasicZmq.Loader.Hosting
import ThinBasicZmq.Loader.ThinCoreReferences

/-!
# Keywords inside of keywords

`ZmqSend(ZmqSocket(ZmqCtxNew(), %ZMQ_PUSH), ...)`: keywords run while other keywords collect
their arguments. What they do to libzmq, to the loader and to the two tables is what they would
do if they ran one after another.
-/

namespace ThinBasicZmq

open Interaction System

/-- Whatever is nested, every point of a run is also reached without nesting, with the same
process and the same history; and between the keywords the history is made of whole runs of
single ones. -/
theorem keywords_serializable (s : Process) (c : Config Req.Resp (Process × List Ev) Returned)
    (hc : history.Reachable (s, []) c) :
    history.sequential.Reachable (s, []) ⟨c.world, c.frames.take 1⟩ ∧
    (history.Between c → history.sequential.Reachable (s, []) ⟨c.world, []⟩ ∧
      ∃ runs : List (Execution Req.Resp Returned), (∀ run ∈ runs, Started run.program) ∧
        c.world.2.reverse = record AsksText runs) := by
  have hdefers : history.Deferring AsksText (fun s => s.1.tb) fun g => g.loaded ≠ 0 :=
    hosted_deferring.logged
  refine ⟨hdefers.sequential_innermost hc, ?_⟩
  intro hb
  have hseq := hdefers.sequential_between hc hb
  obtain ⟨runs, hruns, hrecord⟩ := sequential_record hseq rfl
  refine ⟨hseq, runs, ?_, hrecord⟩
  intro run hrun
  obtain ⟨s', hs'⟩ := hruns run hrun
  exact started_of_opens hs'

/-- The program of a keyword. -/
abbrev Keyword.program (k : Keyword) : Sdk Returned := .keyword k <$> k.exec

lemma ready_hostedBy : (hostedBy 1).world.tb.loaded ≠ 0 := by
  have hone : (hostedBy 1).world.tb.loaded = 1 := by decide +kernel
  rw [hone]
  decide

/-- A process in which everything succeeds, with its history. -/
def noting : (r : Req) → Process × List Ev → r.Resp × (Process × List Ev) :=
  logging AsksText (answering fun _ => true)

lemma respond_noting (r : Req) (s : Process × List Ev) :
    history.respond s r (noting r s).1 (noting r s).2 := ⟨respond_answering _ r s.1, rfl⟩

/-- `ZmqClose(` waits for its argument, and another keyword has run in it. -/
lemma reachable_close_argument {s : Process} (hs : s.world.tb.loaded ≠ 0) (k : Keyword) : ∃ p,
    history.Reachable (s, []) ⟨(k.program.run noting (s, [])).2, [p]⟩ ∧
      history.Between ⟨(k.program.run noting (s, [])).2, [p]⟩ := by
  have hstart : history.Reachable (s, []) ⟨(s, []), [Keyword.zmqClose.program]⟩ :=
    .single (.start (Or.inr (Or.inr ⟨hs, .zmqClose, rfl⟩)))
  have hanswer := fun r => respond_noting r (s, [])
  have hargument := ((hstart.tail (.reply (hanswer _))).tail (.reply (hanswer _))).tail
    (.reply (hanswer _))
  have hnest := hargument.tail (.nest trivial ⟨k, rfl⟩)
  exact ⟨_, hnest.trans (history.steps_run respond_noting _ _ _), trivial⟩

/-- Between the inner and the outer keyword of `ZmqClose(ZmqCtxNew())`. -/
theorem keywords_serializable_close : ∃ s : Process × List Ev, s.2 ≠ [] ∧
    (∃ p, history.Reachable (hostedBy 1, []) ⟨s, [p]⟩) ∧
    history.sequential.Reachable (hostedBy 1, []) ⟨s, []⟩ := by
  obtain ⟨p, hreach, hbetween⟩ := reachable_close_argument ready_hostedBy .zmqCtxNew
  refine ⟨_, by decide +kernel, ⟨p, hreach⟩, ?_⟩
  exact ((keywords_serializable (hostedBy 1) _ hreach).2 hbetween).1

end ThinBasicZmq
