import Folio.Proofs.Histories
import Folio.Proofs.Pages

/-!
# The queue of deferred tokens

Tokens that are deferred wait for the next page, which takes all of them.  Callers, rules and
processors may defer and take at any time, runs may fail, and a new document drops what waits.
Told by the events of a history alone: a page ends with the batches between it and the last event
that is no deferral.

## Main definitions

* `QueueUse`, `QueueEvent` — what happens to the tokens that wait.
* `waitingAt`, `pendingAt` — the batches that wait at an event, and their tokens.
* `Account` — what the rules, the processors and the changes of an environment do to them.
* `Account.history` — the events of a history of operations.
* `FirstInFirstOut` — the deferred tokens are rendered in their order, each batch by one page.

## Main results

* `replay_take` — the queue holds the batches that wait.
* `Account.tells_history` — what the queue holds after a history, and what its pages end with.
* `Account.firstInFirstOut_history` — **the deferred tokens are a queue that the pages empty.**
-/

namespace Folio

open Markdown (Event assemble)
open Plugin.Terms (definitionKind)

/-! ### Events -/

/-- How the tokens that wait are used. -/
inductive QueueUse where
  | defer (batch : List Token)
  | take

/-- What happens to the tokens that wait.  A compiled page is recorded with its tokens, and with
the environment that it leaves. -/
inductive QueueEvent where
  | begin
  | use (u : QueueUse)
  | compile (tokens : List Token) (page : Except RunError String) (env : Environment)

/-- The tokens that wait after a use. -/
def QueueUse.apply (queue : List Token) : QueueUse → List Token
  | .defer batch => queue ++ batch
  | .take => []

namespace QueueEvent

/-- The tokens that wait after an event. -/
def apply (queue : List Token) : QueueEvent → List Token
  | .use u => u.apply queue
  | .begin | .compile .. => []

/-- The batch that is deferred. -/
def batch? : QueueEvent → Option (List Token)
  | .use (.defer batch) => some batch
  | _ => none

/-- The event is the compilation of a page. -/
def isPage : QueueEvent → Bool
  | .compile .. => true
  | _ => false

/-- An event that is no deferral leaves no tokens. -/
theorem apply_of_batch?_none {e : QueueEvent} (h : e.batch? = none) (queue : List Token) :
    e.apply queue = [] := by
  cases e with
  | use u =>
    cases u with
    | defer batch => simp [batch?] at h
    | take => rfl
  | begin | compile => rfl

theorem apply_of_batch?_some {e : QueueEvent} {batch : List Token} (h : e.batch? = some batch)
    (queue : List Token) : e.apply queue = queue ++ batch := by
  cases e with
  | use u =>
    cases u with
    | defer b =>
      obtain rfl := Option.some.inj h
      rfl
    | take => simp [batch?] at h
  | begin | compile => simp [batch?] at h

end QueueEvent

/-- The tokens that wait after some events. -/
def replay (queue : List Token) (events : List QueueEvent) : List Token :=
  events.foldl QueueEvent.apply queue

/-- The tokens that wait after some uses. -/
def replayUses (queue : List Token) (uses : List QueueUse) : List Token :=
  uses.foldl QueueUse.apply queue

theorem replay_append (queue : List Token) (xs ys : List QueueEvent) :
    replay queue (xs ++ ys) = replay (replay queue xs) ys :=
  List.foldl_append

theorem replayUses_append (queue : List Token) (xs ys : List QueueUse) :
    replayUses queue (xs ++ ys) = replayUses (replayUses queue xs) ys :=
  List.foldl_append

theorem replay_map_use (queue : List Token) (uses : List QueueUse) :
    replay queue (uses.map .use) = replayUses queue uses :=
  List.foldl_map

/-! ### The batches that wait -/

/-- The places of the batches that wait at the place `j`: nothing but batches stands between. -/
def waitingAt (events : List QueueEvent) (j : Nat) : List Nat :=
  (List.range j).filter fun i => ((events.take j).drop i).all fun e => e.batch?.isSome

/-- The batch that is deferred at a place. -/
def batchAt (events : List QueueEvent) (i : Nat) : List Token :=
  (events[i]?.bind QueueEvent.batch?).getD []

/-- The tokens that wait at a place, in the order in which they were deferred. -/
def pendingAt (events : List QueueEvent) (j : Nat) : List Token :=
  (waitingAt events j).flatMap (batchAt events)

/-- A page is compiled at a place. -/
def IsPageAt (events : List QueueEvent) (j : Nat) : Prop :=
  ∃ e, events[j]? = some e ∧ e.isPage = true

section Waiting

variable {events : List QueueEvent} {i j k : Nat}

theorem mem_waitingAt : i ∈ waitingAt events j ↔
    i < j ∧ ∀ e ∈ (events.take j).drop i, e.batch?.isSome = true := by
  simp [waitingAt]

/-- Between a batch that waits and the place where it waits there are batches only. -/
theorem isSome_batch?_of_waiting (h : i ∈ waitingAt events j) (hik : i ≤ k) (hkj : k < j)
    {e : QueueEvent} (he : events[k]? = some e) : e.batch?.isSome = true := by
  refine (mem_waitingAt.mp h).2 e (List.mem_of_getElem? (i := k - i) ?_)
  rw [List.getElem?_drop, List.getElem?_take_of_lt (by omega), Nat.add_sub_cancel' hik, he]

theorem waitingAt_succ {e : QueueEvent} (h : events[j]? = some e) :
    waitingAt events (j + 1)
      = if e.batch?.isSome then waitingAt events j ++ [j] else [] := by
  have htake : events.take (j + 1) = events.take j ++ [e] := by
    rw [List.take_add_one, h]
    rfl
  have hlength : (events.take j).length = j := by
    rw [List.length_take]
    have := (List.getElem?_eq_some_iff.mp h).1
    omega
  -- Up to `j` the events in question are those from before, and the event at `j`.
  have hall : ∀ i ∈ List.range (j + 1),
      (((events.take (j + 1)).drop i).all fun e => e.batch?.isSome)
        = ((((events.take j).drop i).all fun e => e.batch?.isSome) && e.batch?.isSome) := by
    intro i hi
    rw [List.mem_range] at hi
    rw [htake, List.drop_append_of_le_length (by omega), List.all_append]
    simp
  unfold waitingAt
  rw [List.filter_congr hall]
  cases he : e.batch?.isSome with
  | false => simp
  | true =>
    have hnil : (events.take j).drop j = [] := by simp
    simp [List.range_succ, List.filter_append, hnil]

/-- **The queue holds the batches that wait.** -/
theorem replay_take (hj : j ≤ events.length) :
    replay [] (events.take j) = pendingAt events j := by
  induction j with
  | zero => rfl
  | succ j ih =>
    have he : events[j]? = some events[j] := List.getElem?_eq_getElem hj
    rw [List.take_add_one, replay_append, ih (by omega), he]
    unfold pendingAt
    rw [waitingAt_succ he]
    cases hbatch : (events[j]).batch? with
    | none => exact QueueEvent.apply_of_batch?_none hbatch _
    | some batch =>
      have hat : batchAt events j = batch := by rw [batchAt, he, Option.bind_some, hbatch]; rfl
      rw [Option.isSome_some, if_pos rfl, List.flatMap_append, List.flatMap_singleton, hat]
      exact QueueEvent.apply_of_batch?_some hbatch _

/-- A batch waits for the first page behind it if it is not dropped before. -/
theorem exists_page_of_kept {batch : List Token} (hi : events[i]? = some (.use (.defer batch)))
    (hij : i < j) (hj : IsPageAt events j)
    (hkept : ∀ k e, i < k → k < j → events[k]? = some e →
      e.isPage = true ∨ e.batch?.isSome = true) :
    ∃ k, IsPageAt events k ∧ i ∈ waitingAt events k := by
  induction j using Nat.strong_induction_on with
  | h j ih =>
    by_cases hfirst : ∃ k, i < k ∧ k < j ∧ IsPageAt events k
    · obtain ⟨k, hik, hkj, hk⟩ := hfirst
      exact ih k hkj hik hk fun l e hil hlk => hkept l e hil (by omega)
    · -- The page at `j` is the first, so there are only batches before it.
      refine ⟨j, hj, mem_waitingAt.mpr ⟨hij, fun e he => ?_⟩⟩
      obtain ⟨n, hn⟩ := List.getElem?_of_mem he
      rw [List.getElem?_drop] at hn
      have hlt : i + n < j := by
        by_contra hge
        rw [List.getElem?_take_eq_none (by omega)] at hn
        simp at hn
      rw [List.getElem?_take_of_lt hlt] at hn
      cases n with
      | zero =>
        obtain rfl := Option.some.inj (hi.symm.trans hn)
        rfl
      | succ n =>
        have hik : i < i + (n + 1) := by omega
        refine (hkept _ e hik hlt hn).resolve_left fun hpage => hfirst ?_
        exact ⟨i + (n + 1), hik, hlt, e, hn, hpage⟩

end Waiting

/-! ### Accounts -/

/-- An account of what the rules and stages of a pipeline and the changes of an environment do to
the tokens that wait.  They have no other access to them than to defer and to take. -/
structure Account (p : Pipeline) where
  /-- What a rule does. -/
  rule : CoreRule → List Token → Session → List QueueUse
  /-- What a stage does, even if it fails. -/
  stage : Stage → List Token → Session → List QueueUse
  /-- What a change does. -/
  edit : (Environment → Environment) → Environment → List QueueUse
  rule_spec : ∀ r ∈ p.engine.coreRules, ∀ ts s,
    (r.apply ts s).2.env.deferred = replayUses s.env.deferred (rule r ts s)
  stage_spec : ∀ st ∈ p.stages, ∀ ts s,
    (st.run p.engine ts s).2.env.deferred = replayUses s.env.deferred (stage st ts s)
  edit_spec : ∀ change env, (change env).deferred = replayUses env.deferred (edit change env)

namespace Account

variable {p : Pipeline} (A : Account p)

/-- What rules do, one after the other. -/
def rules : List CoreRule → List Token → Session → List QueueUse
  | [], _, _ => []
  | r :: rs, ts, s => A.rule r ts s ++ rules rs (r.apply ts s).1 (r.apply ts s).2

/-- What stages do, up to the first that fails. -/
def stages : List Stage → List Token → Session → List QueueUse
  | [], _, _ => []
  | st :: sts, ts, s => A.stage st ts s ++ match Pipeline.runStage p.engine st ts s with
    | (.ok ts, s) => stages sts ts s
    | (.error _, _) => []

/-- The events of parsing. -/
def parse (events : List Event) (s : Session) : List QueueEvent :=
  .begin :: (A.rules p.engine.coreRules (assemble events).1
    (s.beginRun.mapEnv fun env => (assemble events).2.foldl Engine.storeFrontMatter env)).map .use

/-- The events of processing. -/
def process (ts : List Token) (s : Session) : List QueueEvent :=
  (A.stages p.stages ts s).map .use

/-- The event of compiling. -/
def compile (p : Pipeline) (ts : List Token) (s : Session) : QueueEvent :=
  .compile ts (p.compile ts s).1 (p.compile ts s).2.env

/-- The events of an operation. -/
def operation (s : Session) : Operation → List QueueEvent
  | .parse events => A.parse events s
  | .process ts => A.process ts s
  | .compile ts => [compile p ts s]
  | .render events =>
    let (ts, s') := p.parseEvents events s
    A.parse events s ++ A.process ts s' ++ match p.process ts s' with
      | (.ok ts, s) => [compile p ts s]
      | (.error _, _) => []
  | .defer ts => [.use (.defer ts)]
  | .take => [.use .take]
  | .edit change => (A.edit change s.env).map .use
  | .report .. => []

/-- The events of a history of operations. -/
def history (s : Session) : List Operation → List QueueEvent
  | [] => []
  | op :: ops => A.operation s op ++ history ((Workbench.mk p s).perform op).session ops

/-! ### What the events tell -/

/-- The events lead from the tokens that wait in one session to those that wait in another, and
each page is rendered from its own tokens and then from those that wait. -/
structure Tells (p : Pipeline) (s s' : Session) (events : List QueueEvent) : Prop where
  queue : s'.env.deferred = replay s.env.deferred events
  page : ∀ before ts page env after, events = before ++ QueueEvent.compile ts page env :: after →
    page = Except.ok (p.engine.render ts env
      ++ p.engine.render (replay s.env.deferred before) env) ∧ env.deferred = []

theorem Tells.append {s s' s'' : Session} {xs ys : List QueueEvent} (hx : Tells p s s' xs)
    (hy : Tells p s' s'' ys) : Tells p s s'' (xs ++ ys) := by
  refine ⟨by rw [replay_append, ← hx.queue, hy.queue], fun before ts page env after h => ?_⟩
  have hright : ∀ mid, ys = mid ++ .compile ts page env :: after → before = xs ++ mid →
      page = .ok (p.engine.render ts env
        ++ p.engine.render (replay s.env.deferred before) env) ∧ env.deferred = [] := by
    rintro mid hys rfl
    rw [replay_append, ← hx.queue]
    exact hy.page mid ts page env after hys
  rcases List.append_eq_append_iff.mp h with ⟨mid, hbefore, hmid⟩ | ⟨mid, hxs, hmid⟩
  · exact hright mid hmid hbefore
  · cases mid with
    | nil => exact hright [] hmid.symm (by simpa using hxs.symm)
    | cons e mid =>
      rw [List.cons_append, List.cons.injEq] at hmid
      obtain ⟨rfl, rfl⟩ := hmid
      exact hx.page before ts page env mid hxs

/-- Events without a page tell what waits. -/
theorem tells_of_no_page {s s' : Session} {events : List QueueEvent}
    (hqueue : s'.env.deferred = replay s.env.deferred events)
    (h : ∀ e ∈ events, e.isPage = false) : Tells p s s' events := by
  refine ⟨hqueue, fun before ts page env after heq => ?_⟩
  have hmem := h (.compile ts page env) (heq ▸ by simp)
  simp [QueueEvent.isPage] at hmem

theorem tells_uses {s s' : Session} {uses : List QueueUse}
    (h : s'.env.deferred = replayUses s.env.deferred uses) : Tells p s s' (uses.map .use) := by
  refine tells_of_no_page (h.trans (replay_map_use _ _).symm) fun e he => ?_
  obtain ⟨u, -, rfl⟩ := List.mem_map.mp he
  rfl

theorem deferred_applyRules {rs : List CoreRule} (hrs : ∀ r ∈ rs, r ∈ p.engine.coreRules) :
    ∀ (ts : List Token) (s : Session), (Engine.applyRules rs ts s).2.env.deferred
      = replayUses s.env.deferred (A.rules rs ts s) := by
  induction rs with
  | nil => exact fun _ _ => rfl
  | cons r rs ih =>
    intro ts s
    have hrest := ih (fun r' hr' => hrs r' (List.mem_cons_of_mem r hr')) (r.apply ts s).1
      (r.apply ts s).2
    rw [rules, replayUses_append, ← A.rule_spec r (hrs r List.mem_cons_self), ← hrest]
    rfl

theorem deferred_runStage (e : Engine) (st : Stage) (ts : List Token) (s : Session) :
    (Pipeline.runStage e st ts s).2 = (st.run e ts s).2 := by
  unfold Pipeline.runStage
  split
  · next h => rw [h]
  · next h =>
    rw [h]
    split <;> rfl

theorem deferred_runStages {sts : List Stage} (hsts : ∀ st ∈ sts, st ∈ p.stages) :
    ∀ (ts : List Token) (s : Session),
      (Pipeline.runStages p.engine sts ts s).2.env.deferred
        = replayUses s.env.deferred (A.stages sts ts s) := by
  induction sts with
  | nil => exact fun _ _ => rfl
  | cons st sts ih =>
    intro ts s
    have hfirst := A.stage_spec st (hsts st List.mem_cons_self) ts s
    rw [← deferred_runStage] at hfirst
    rw [Pipeline.runStages, stages, replayUses_append, ← hfirst]
    -- What a stage has deferred stays there even if the stage fails.
    split
    · next h =>
      rw [h]
      exact ih (fun st' hst' => hsts st' (List.mem_cons_of_mem st hst')) _ _
    · next h =>
      rw [h]
      rfl

/-- A new document drops what waits, and then come the uses of the rules. -/
theorem tells_parse (events : List Event) (s : Session) :
    Tells p s (p.parseEvents events s).2 (A.parse events s) := by
  refine tells_of_no_page ?_ fun e he => ?_
  · have hparse : (p.parseEvents events s).2.env.deferred
        = (p.engine.parseEvents events s.beginRun).2.env.deferred := by
      unfold Pipeline.parseEvents
      dsimp only
      split <;> split <;> rfl
    have hbegin : (s.beginRun.mapEnv fun env =>
        (assemble events).2.foldl Engine.storeFrontMatter env).env.deferred = [] :=
      deferred_storeFrontMatter _ _
    have hall : ∀ r ∈ p.engine.coreRules, r ∈ p.engine.coreRules := fun _ h => h
    have hrules := A.deferred_applyRules hall (assemble events).1
      (s.beginRun.mapEnv fun env => (assemble events).2.foldl Engine.storeFrontMatter env)
    rw [hbegin] at hrules
    rw [hparse, parse]
    exact hrules.trans (replay_map_use _ _).symm
  · rcases List.mem_cons.mp he with rfl | he
    · rfl
    · obtain ⟨u, -, rfl⟩ := List.mem_map.mp he
      rfl

theorem tells_process (ts : List Token) (s : Session) :
    Tells p s (p.process ts s).2 (A.process ts s) :=
  tells_uses (A.deferred_runStages (fun _ h => h) ts s)

/-- A page takes all that waits, and ends with it. -/
theorem tells_compile (hsanitize : p.sanitize = none) (ts : List Token) (s : Session) :
    Tells p s (p.compile ts s).2 [compile p ts s] := by
  refine ⟨rfl, fun before ts' page env after h => ?_⟩
  cases before with
  | cons e before => simp at h
  | nil =>
    rw [List.nil_append, compile, List.cons.injEq, QueueEvent.compile.injEq] at h
    obtain ⟨⟨rfl, rfl, rfl⟩, -⟩ := h
    refine ⟨?_, rfl⟩
    unfold Pipeline.compile
    rw [hsanitize]
    exact congrArg Except.ok (Renderer.render_append _ _ _)

/-- **An operation does to the tokens that wait what its events tell.** -/
theorem tells_operation (hsanitize : p.sanitize = none) (s : Session) (op : Operation) :
    Tells p s ((Workbench.mk p s).perform op).session (A.operation s op) := by
  cases op with
  | parse events => exact A.tells_parse events s
  | process ts => exact A.tells_process ts s
  | compile ts => exact tells_compile hsanitize ts s
  | render events =>
    have hrender : ((Workbench.mk p s).perform (.render events)).session
        = (p.finish (p.parseEvents events s).1 (p.parseEvents events s).2).2 := rfl
    have hprocess := (A.tells_parse events s).append
      (A.tells_process (p.parseEvents events s).1 (p.parseEvents events s).2)
    rw [hrender, operation, Pipeline.finish]
    dsimp only
    cases h : p.process (p.parseEvents events s).1 (p.parseEvents events s).2 with
    | mk result s' =>
      rw [h] at hprocess
      cases result with
      | error e =>
        rw [List.append_nil]
        exact hprocess
      | ok ts =>
        have hcompile := tells_compile hsanitize ts s'
        dsimp only
        cases hc : p.compile ts s' with
        | mk page s'' =>
          rw [hc] at hcompile
          cases page <;> exact hprocess.append hcompile
  | defer ts => exact tells_of_no_page rfl (List.forall_mem_singleton.mpr rfl)
  | take => exact tells_of_no_page rfl (List.forall_mem_singleton.mpr rfl)
  | edit change => exact tells_uses (A.edit_spec change s.env)
  | report level plugin message => exact tells_of_no_page rfl (List.forall_mem_nil _)

/-- **A history does to the tokens that wait what its events tell.** -/
theorem tells_history (hsanitize : p.sanitize = none) (ops : List Operation) : ∀ s : Session,
    Tells p s ((Workbench.mk p s).performAll ops).session (A.history s ops) := by
  induction ops with
  | nil => exact fun s => ⟨rfl, fun before _ _ _ _ h => by simp [history] at h⟩
  | cons op ops ih =>
    intro s
    have hrest := ih ((Workbench.mk p s).perform op).session
    -- The operation has changed the session only.
    have hw : (Workbench.mk p s).perform op
        = ⟨p, ((Workbench.mk p s).perform op).session⟩ := by
      cases op <;> rfl
    rw [← hw] at hrest
    exact (A.tells_operation hsanitize s op).append hrest

end Account

/-- What the built-in plugins do to the tokens that wait: the definitions of terms are deferred.
A change of the environment may do anything. -/
def Options.UsesBuiltins.account {o : Options} (ho : o.UsesBuiltins) : Account o.pipeline where
  rule _ _ _ := []
  stage _ ts _ := [.defer (ts.filter fun t => t.kind == definitionKind)]
  edit change env := [.take, .defer (change env).deferred]
  rule_spec := by
    intro r hr ts s
    have hr : r ∈ o.engine.coreRules := hr
    rw [Options.coreRules_engine, List.mem_cons] at hr
    rcases hr with rfl | hr
    · rfl
    · obtain ⟨p, hp, hr⟩ := List.mem_flatMap.mp hr
      exact (Plugin.isGentle_of_mem_defaults (ho.plugins p hp) o.forPlugins r hr).deferred ts s
  stage_spec := by
    intro st hst ts s
    rw [ho.stages st hst, terms_processor_eq]
    rfl
  edit_spec _ _ := rfl

/-! ### First in, first out -/

/-- The tokens that wait are rendered in the order in which they were deferred, behind the tokens
of the page that takes them. -/
structure FirstInFirstOut (e : Engine) (events : List QueueEvent) : Prop where
  /-- A page is rendered from its own tokens, and then from the batches that wait.  It leaves
  none. -/
  page : ∀ (j : Nat) (ts : List Token) (page : Except RunError String) (env : Environment),
    events[j]? = some (.compile ts page env) →
      page = .ok (e.render ts env ++ e.render (pendingAt events j) env) ∧ env.deferred = []
  /-- No batch waits for two pages. -/
  once : ∀ i j k, i ∈ waitingAt events j → i ∈ waitingAt events k →
    IsPageAt events j → IsPageAt events k → j = k
  /-- A batch waits for a page, if one comes before a new document begins and before the batches
  are taken. -/
  kept : ∀ (i j : Nat) (batch : List Token), events[i]? = some (.use (.defer batch)) → i < j →
    IsPageAt events j →
    (∀ k e, i < k → k < j → events[k]? = some e → e.isPage = true ∨ e.batch?.isSome = true) →
      ∃ k, IsPageAt events k ∧ i ∈ waitingAt events k

theorem QueueEvent.batch?_of_isPage {e : QueueEvent} (h : e.isPage = true) :
    e.batch?.isSome = false := by
  cases e with
  | begin | use => simp [isPage] at h
  | compile => rfl

/-- A batch that waits for a page does not wait behind it. -/
theorem not_waiting_of_isPageAt {events : List QueueEvent} {i j k : Nat}
    (hij : i ∈ waitingAt events j) (hik : i ∈ waitingAt events k) (hj : IsPageAt events j) :
    ¬ j < k := by
  intro hjk
  obtain ⟨page, hpage, hisPage⟩ := hj
  have hlt := (mem_waitingAt.mp hij).1
  have hbatch := isSome_batch?_of_waiting hik (Nat.le_of_lt hlt) hjk hpage
  rw [QueueEvent.batch?_of_isPage hisPage] at hbatch
  simp at hbatch

namespace Account

/-- Events that tell what happens to an empty queue show that it is one. -/
theorem Tells.firstInFirstOut {p : Pipeline} {s s' : Session} {events : List QueueEvent}
    (h : Tells p s s' events) (hs : s.env.deferred = []) : FirstInFirstOut p.engine events where
  page := by
    intro j ts page env hj
    obtain ⟨hlt, hget⟩ := List.getElem?_eq_some_iff.mp hj
    have hsplit : events = events.take j ++ .compile ts page env :: events.drop (j + 1) := by
      rw [← hget, List.getElem_cons_drop, List.take_append_drop]
    obtain ⟨hpage, henv⟩ := h.page _ ts page env _ hsplit
    rw [hs, replay_take (Nat.le_of_lt hlt)] at hpage
    exact ⟨hpage, henv⟩
  once := by
    intro i j k hij hik hj hk
    have hjk := not_waiting_of_isPageAt hij hik hj
    have hkj := not_waiting_of_isPageAt hik hij hk
    omega
  kept := by
    intro i j batch hi hij hj hkept
    exact exists_page_of_kept hi hij hj hkept

/-- **The deferred tokens are a queue that the pages empty**, whatever a pipeline has been used
for: a page is rendered from its own tokens and then from the batches that wait. -/
theorem firstInFirstOut_history (o : Options) (hsanitize : o.sanitize = none)
    (A : Account o.pipeline) (history : List Operation) :
    FirstInFirstOut o.engine (A.history {} history) ∧
    ∀ ts, ∃ env, env.deferred = [] ∧
      ((o.workbench.performAll history).compile ts).2.session.env = env ∧
      ((o.workbench.performAll history).compile ts).1 = .ok (o.engine.render ts env
        ++ o.engine.render (pendingAt (A.history {} history) (A.history {} history).length)
            env) := by
  have htells := A.tells_history hsanitize history {}
  refine ⟨htells.firstInFirstOut rfl, fun ts => ⟨_, rfl, rfl, ?_⟩⟩
  have hwaiting : (o.workbench.performAll history).session.env.deferred
      = pendingAt (A.history {} history) (A.history {} history).length := by
    rw [← replay_take (Nat.le_refl _), List.take_length]
    exact htells.queue
  have hcompile := tells_compile (p := o.pipeline) hsanitize ts
    (o.workbench.performAll history).session
  have hpage := hcompile.page [] ts _ _ [] rfl
  have hpipeline := Workbench.pipeline_performAll history o.workbench
  rw [← hwaiting]
  unfold Workbench.compile
  rw [hpipeline]
  exact hpage.1

end Account

/-- The default options: two texts are deferred, and a page is compiled. -/
theorem Account.firstInFirstOut_two_batches :
    ∃ A : Account ({} : Options).pipeline,
      FirstInFirstOut ({} : Options).engine (A.history {}
        [.defer [.text "b"], .defer [.text "c"], .compile [.text "a"]]) ∧
      pendingAt (A.history {} [.defer [.text "b"], .defer [.text "c"]]) 2
        = [.text "b", .text "c"] ∧
      ((({} : Options).workbench.performAll [.defer [.text "b"], .defer [.text "c"]]).compile
        [.text "a"]).1.toOption = some "abc" := by
  have ho : ({} : Options).UsesBuiltins := ⟨fun _ h => h, fun _ => rfl⟩
  refine ⟨ho.account, (Account.firstInFirstOut_history {} rfl ho.account _).1, rfl, ?_⟩
  decide +kernel

end Folio
