import Mathlib.Data.List.Induction
import MarketFeed.Engine.Connector
import MarketFeed.Engine.Replay
import MarketFeed.Named

set_option autoImplicit false

/-!
# The feeds of a connector

An exchange is a connector with the engines it has opened. Engines are opened by `connect`, worked
by their owners and their loops, filled through their feeds, and dropped. A feed is the number of
its engine: whoever has got it keeps it, whatever the connector hands out later.

* `Connector.Condition`: what a connection asks of a configuration, and the error if it is not met;
  `Connector.connect_cases` says that nothing else decides.
* `Exchange.Tracks`: the table of feeds, the engines and their queues as they are told by the log of
  a run. Every act keeps it (`Tracks.act`).
* `feeds_follow_connects`: which feed a key has, and where it leads.
-/

namespace MarketFeed

/-! ## Conditions -/

namespace Connector

/-- What a connection asks of a configuration. -/
inductive Condition where
  | dataset | gateway | key
  deriving DecidableEq

namespace Condition

def Holds (authorized : Option (List String)) (config : Config) : Condition → Prop
  | dataset => config.dataset ∈ Dataset.codes
  | gateway => ¬ ∃ stem, config.gateway.host = stem ++ ".invalid"
  | key => ∀ keys, authorized = some keys → config.key ∈ keys

/-- The error of a connection that does not meet the condition. -/
def error (config : Config) : Condition → EngineError
  | dataset => .connect ("unknown dataset '" ++ config.dataset ++ "'")
  | gateway => .connect ("gateway " ++ config.gateway.text ++ " is unreachable")
  | key => .authentication "API key rejected by gateway"

/-- The conditions that are looked at before. -/
def earlier : Condition → List Condition
  | dataset => []
  | gateway => [dataset]
  | key => [dataset, gateway]

/-- The condition is the first one that is not met. -/
def Fails (authorized : Option (List String)) (config : Config) (c : Condition) : Prop :=
  ¬ c.Holds authorized config ∧ ∀ d ∈ c.earlier, d.Holds authorized config

variable {authorized : Option (List String)} {config : Config} {c d : Condition}

theorem Fails.unique (hc : c.Fails authorized config) (hd : d.Fails authorized config) : c = d := by
  have apart (e : Condition) (he : e.Fails authorized config) : e ∉ c.earlier ∧ e ∉ d.earlier :=
    ⟨fun h => he.1 (hc.2 e h), fun h => he.1 (hd.2 e h)⟩
  have hcd := (apart c hc).2
  have hdc := (apart d hd).1
  revert hcd hdc
  cases c <;> cases d <;> decide

theorem dataset_iff :
    Holds authorized config .dataset ↔ Dataset.known config.dataset = true :=
  List.contains_iff_mem.symm

theorem gateway_iff : Holds authorized config .gateway ↔
    ¬ ".invalid".toList.isSuffixOf config.gateway.host.toList = true := by
  refine not_congr ?_
  rw [List.isSuffixOf_iff_suffix]
  constructor
  · rintro ⟨stem, hhost⟩
    rw [hhost]
    exact ⟨stem.toList, String.toList_append.symm⟩
  · rintro ⟨cs, hcs⟩
    refine ⟨String.ofList cs, String.toList_injective ?_⟩
    rw [String.toList_append, String.toList_ofList, hcs]

theorem key_iff : Holds authorized config .key ↔
    ¬ (authorized.any fun keys => !keys.contains config.key) = true := by
  cases authorized with
  | none => exact iff_of_true nofun Bool.false_ne_true
  | some keys =>
    rw [Option.any_some, Bool.not_eq_true, Bool.not_eq_false', List.contains_iff_mem]
    exact ⟨fun h => h keys rfl, fun h _ hkeys => Option.some.inj hkeys ▸ h⟩

end Condition

/-- A connection is refused for the first condition that is not met. -/
theorem refusal_cases (k : Connector) (config : Config) :
    (∃ c : Condition, c.Fails k.authorized config ∧ k.refusal config = some (c.error config)) ∨
      ((∀ c : Condition, c.Holds k.authorized config) ∧ k.refusal config = none) := by
  unfold refusal
  split
  · rename_i hd
    have hd' : ¬ Dataset.known config.dataset = true := by simpa using hd
    exact .inl ⟨.dataset, ⟨fun h => hd' (Condition.dataset_iff.mp h), nofun⟩, rfl⟩
  · rename_i hd
    have hdataset : Condition.dataset.Holds k.authorized config :=
      Condition.dataset_iff.mpr (by simpa using hd)
    split
    · rename_i hg
      refine .inl ⟨.gateway, ⟨fun h => Condition.gateway_iff.mp h hg, ?_⟩, rfl⟩
      exact List.forall_mem_singleton.mpr hdataset
    · rename_i hg
      have hgateway : Condition.gateway.Holds k.authorized config := Condition.gateway_iff.mpr hg
      split
      · rename_i hk
        refine .inl ⟨.key, ⟨fun h => Condition.key_iff.mp h hk, ?_⟩, rfl⟩
        exact List.forall_mem_cons.mpr ⟨hdataset, List.forall_mem_singleton.mpr hgateway⟩
      · rename_i hk
        refine .inr ⟨?_, rfl⟩
        rintro (_ | _ | _)
        · exact hdataset
        · exact hgateway
        · exact Condition.key_iff.mpr hk

/-- The connector once it has opened an engine. -/
def opening (k : Connector) (config : Config) : Connector :=
  { k with
    opened := k.opened + 1
    feeds := (config.key, k.opened) :: k.feeds.filter (·.1 != config.key) }

theorem connect_cases (k : Connector) (config : Config) :
    (∃ c : Condition, c.Fails k.authorized config ∧
        k.connect config = (.error (c.error config), k)) ∨
      ((∀ c : Condition, c.Holds k.authorized config) ∧
        k.connect config = (.ok (), k.opening config)) := by
  rcases k.refusal_cases config with ⟨c, hc, hr⟩ | ⟨hall, hr⟩
  · exact .inl ⟨c, hc, by simp only [connect, hr]⟩
  · exact .inr ⟨hall, by simp only [connect, hr, opening]⟩

theorem feed?_opening (k : Connector) (config : Config) (key : String) :
    (k.opening config).feed? key = if key = config.key then some k.opened else k.feed? key := by
  split
  · rename_i h
    rw [h]
    exact List.lookup_cons_self
  · rename_i h
    have hne : (key == config.key) = false := beq_false_of_ne h
    rw [feed?, opening, List.lookup_cons, hne]
    exact lookup_filter_ne h _

end Connector

/-! ## Engines with their owners -/

/-- An exchange: a connector, and the engines it has opened. -/
structure Exchange.Held where
  engine : Replay
  /-- Whether the owner has dropped the engine. -/
  dropped : Bool

namespace Exchange

/-- What the owner of an engine or its loop does with it. -/
inductive Work where
  | subscribe (s : Subscription)
  | start
  | reconnect
  | stop
  | drop
  /-- A turn of the loop. -/
  | turn
  /-- The loop is told what came of a turn. -/
  | conclude (o : Outcome)

/-- Whether it is the owner that does it. -/
def Work.byOwner : Work → Bool
  | turn | conclude _ => false
  | _ => true

namespace Held

/-- Whether a feed reaches the engine: the engine goes when it is dropped and its loop is over. -/
def reached (h : Held) : Bool := !h.dropped || h.engine.isRunning

def work (h : Held) (w : Work) : Held :=
  if h.dropped && w.byOwner then h
  else
    match w with
    | .subscribe s => { h with engine := h.engine.subscribe s }
    | .start => { h with engine := h.engine.start.toOption.getD h.engine }
    | .reconnect => { h with engine := h.engine.reconnect.toOption.getD h.engine }
    | .stop => { h with engine := h.engine.stop }
    | .drop => { engine := h.engine.stop, dropped := true }
    | .turn => { h with engine := h.engine.turn.2 }
    | .conclude o => { h with engine := h.engine.conclude o }

/-- What a piece of work takes from the queue. -/
def taken (h : Held) : Work → Option FeedEvent
  | .turn =>
    if h.engine.loop.any (·.greeted) && !h.engine.shutdown then h.engine.queue.head? else none
  | _ => none

def push (h : Held) (event : FeedEvent) : Held := { h with engine := h.engine.push event }

/-- A turn takes the first event or none, and neither it nor any other work touches the rest. -/
theorem work_queue (h : Held) (w : Work) :
    h.engine.queue = (h.taken w).toList ++ (h.work w).engine.queue := by
  unfold work
  split
  · rename_i hdrop
    cases w <;> first | rfl | simp [Work.byOwner] at hdrop
  · cases w with
    | subscribe | stop | drop => rfl
    | start =>
      show _ = (h.engine.start.toOption.getD h.engine).queue
      unfold Replay.start
      split <;> rfl
    | reconnect =>
      show _ = (h.engine.reconnect.toOption.getD h.engine).queue
      unfold Replay.reconnect
      split <;> rfl
    | turn =>
      show _ = _ ++ h.engine.turn.2.queue
      unfold taken
      cases hl : h.engine.loop with
      | none =>
        rw [Replay.turn_none hl]
        rfl
      | some loop =>
        cases hg : loop.greeted with
        | false =>
          rw [Replay.turn_greet hl hg]
          simp [hg]
        | true =>
          cases hs : h.engine.shutdown with
          | true =>
            rw [Replay.turn_shutdown hl hg hs]
            simp
          | false =>
            cases hq : h.engine.queue with
            | nil =>
              rw [Replay.turn_empty hl hg hs hq]
              simp [hq]
            | cons event queue =>
              rw [Replay.turn_take hl hg hs hq]
              simp [hg]
    | conclude o =>
      show _ = (h.engine.conclude o).queue
      rcases o with _ | (_ | _) | (_ | _) <;> rfl

theorem work_config (h : Held) (w : Work) : (h.work w).engine.config = h.engine.config := by
  unfold work
  split
  · rfl
  · cases w with
    | subscribe | stop | drop => rfl
    | start =>
      show (h.engine.start.toOption.getD h.engine).config = _
      unfold Replay.start
      split <;> rfl
    | reconnect =>
      show (h.engine.reconnect.toOption.getD h.engine).config = _
      unfold Replay.reconnect
      split <;> rfl
    | turn =>
      show h.engine.turn.2.config = _
      unfold Replay.turn
      split
      · rfl
      · rfl
      · rfl
      · unfold Replay.take
        cases h.engine.queue with
        | nil => rfl
        | cons event queue =>
          show (if _ then _ else _ : Replay).config = _
          split <;> rfl
    | conclude o =>
      show (h.engine.conclude o).config = _
      rcases o with _ | (_ | _) | (_ | _) <;> rfl

end Held

end Exchange

/-! ## Exchanges -/

structure Exchange where
  connector : Connector
  /-- The engines in the order in which they were opened. -/
  engines : List Exchange.Held

namespace Exchange

inductive Act where
  | connect (config : Config)
  /-- An event is pushed through a feed. -/
  | push (n : Nat) (event : FeedEvent)
  | work (n : Nat) (w : Work)

inductive Answer where
  | connected (r : Except EngineError Unit)
  | accepted (b : Bool)
  /-- The work is done, and an event may have been taken from the queue. -/
  | done (taken : Option FeedEvent)
  | noEngine

def new (authorized : Option (List String)) : Exchange := ⟨.new authorized, []⟩

/-- The feed that the connector hands out for a key. -/
def feed? (x : Exchange) (key : String) : Option Nat := x.connector.feed? key

/-- What is in the queue of an engine, the oldest first. -/
def queue (x : Exchange) (n : Nat) : List FeedEvent :=
  match x.engines[n]? with
  | none => []
  | some h => h.engine.queue

def put (x : Exchange) (n : Nat) (h : Held) : Exchange := { x with engines := x.engines.set n h }

def act (x : Exchange) : Act → Answer × Exchange
  | .connect config =>
    match x.connector.connect config with
    | (.error cause, connector) => (.connected (.error cause), { x with connector })
    | (.ok (), connector) =>
      (.connected (.ok ()), ⟨connector, x.engines ++ [⟨.new config, false⟩]⟩)
  | .push n event =>
    match x.engines[n]? with
    | none => (.noEngine, x)
    | some h =>
      if h.reached then (.accepted true, x.put n (h.push event)) else (.accepted false, x)
  | .work n w =>
    match x.engines[n]? with
    | none => (.noEngine, x)
    | some h => (.done (h.taken w), x.put n (h.work w))

/-- An act with its answer. -/
abbrev Entry := Act × Answer

def after (x : Exchange) (run : List Act) : Exchange := run.foldl (fun x a => (x.act a).2) x

def log : Exchange → List Act → List Entry
  | _, [] => []
  | x, a :: run => (a, (x.act a).1) :: (x.act a).2.log run

theorem log_append (x : Exchange) (run run' : List Act) :
    x.log (run ++ run') = x.log run ++ (x.after run).log run' := by
  induction run generalizing x with
  | nil => rfl
  | cons a run ih => exact congrArg _ (ih _)

/-! ## What the log tells -/

/-- The configuration of a connection that succeeded. -/
def Entry.accepted? : Entry → Option Config
  | (.connect config, .connected (.ok ())) => some config
  | _ => none

/-- The event that reached an engine. -/
def Entry.pushed? (n : Nat) : Entry → Option FeedEvent
  | (.push m event, .accepted true) => if m = n then some event else none
  | _ => none

/-- The event that was taken from the queue of an engine. -/
def Entry.taken? (n : Nat) : Entry → Option FeedEvent
  | (.work m _, .done event) => if m = n then event else none
  | _ => none

/-- The configurations of the connections that succeeded, in their order. -/
def accepted (l : List Entry) : List Config := l.filterMap Entry.accepted?

def pushed (n : Nat) (l : List Entry) : List FeedEvent := l.filterMap (Entry.pushed? n)

def taken (n : Nat) (l : List Entry) : List FeedEvent := l.filterMap (Entry.taken? n)

/-- The number of the last configuration with a key. -/
structure Newest (key : String) (configs : List Config) (n : Nat) : Prop where
  named : ∃ config, configs[n]? = some config ∧ config.key = key
  last : ∀ m config, configs[m]? = some config → config.key = key → m ≤ n

theorem getElem?_concat_eq_some {α : Type} {l : List α} {a b : α} {m : Nat} :
    (l ++ [a])[m]? = some b ↔ l[m]? = some b ∨ m = l.length ∧ b = a := by
  rcases Nat.lt_trichotomy m l.length with hm | rfl | hm
  · rw [List.getElem?_append_left hm]
    exact ⟨.inl, fun h => h.elim id fun h => absurd h.1 (Nat.ne_of_lt hm)⟩
  · rw [List.getElem?_concat_length, List.getElem?_eq_none (Nat.le_refl _)]
    simp [eq_comm]
  · rw [List.getElem?_eq_none (by rw [List.length_append, List.length_singleton]; omega),
      List.getElem?_eq_none (by omega)]
    simp [Nat.ne_of_gt hm]

theorem newest_concat {key : String} {configs : List Config} {config : Config} {n : Nat} :
    Newest key (configs ++ [config]) n ↔
      if key = config.key then n = configs.length else Newest key configs n := by
  have hlast : (configs ++ [config])[configs.length]? = some config :=
    List.getElem?_concat_length
  have hlt {m : Nat} {c : Config} (h : configs[m]? = some c) : m < configs.length :=
    (List.getElem?_eq_some_iff.mp h).1
  split
  · rename_i hkey
    constructor
    · rintro ⟨⟨c, hc, -⟩, hn⟩
      have hle : configs.length ≤ n := hn _ config hlast hkey.symm
      rcases getElem?_concat_eq_some.mp hc with hc | ⟨rfl, -⟩
      · have := hlt hc
        omega
      · rfl
    · rintro rfl
      refine ⟨⟨config, hlast, hkey.symm⟩, fun m c hc _ => ?_⟩
      rcases getElem?_concat_eq_some.mp hc with hc | ⟨rfl, -⟩
      · exact Nat.le_of_lt (hlt hc)
      · exact Nat.le_refl _
  · rename_i hkey
    constructor
    · rintro ⟨⟨c, hc, hck⟩, hn⟩
      rcases getElem?_concat_eq_some.mp hc with hc | ⟨-, rfl⟩
      · exact ⟨⟨c, hc, hck⟩, fun m d hd => hn m d (getElem?_concat_eq_some.mpr (.inl hd))⟩
      · exact absurd hck.symm hkey
    · rintro ⟨⟨c, hc, hck⟩, hn⟩
      refine ⟨⟨c, getElem?_concat_eq_some.mpr (.inl hc), hck⟩, fun m d hd hdk => ?_⟩
      rcases getElem?_concat_eq_some.mp hd with hd | ⟨-, rfl⟩
      · exact hn m d hd hdk
      · exact absurd hdk.symm hkey

theorem exists_newest {key : String} {configs : List Config}
    (h : ∃ config ∈ configs, config.key = key) : ∃ n, Newest key configs n := by
  induction configs using List.reverseRecOn with
  | nil =>
    obtain ⟨_, hc, -⟩ := h
    cases hc
  | append_singleton configs last ih =>
    by_cases hkey : key = last.key
    · exact ⟨configs.length, newest_concat.mpr (by rw [if_pos hkey])⟩
    · obtain ⟨config, hc, hck⟩ := h
      rcases List.mem_append.mp hc with hc | hc
      · obtain ⟨n, hn⟩ := ih ⟨config, hc, hck⟩
        exact ⟨n, newest_concat.mpr (by rwa [if_neg hkey])⟩
      · rw [List.mem_singleton.mp hc] at hck
        exact absurd hck.symm hkey

/-! ## Runs -/

/-- The exchange is as its log tells. -/
structure Tracks (authorized : Option (List String)) (x : Exchange) (l : List Entry) : Prop where
  authorized : x.connector.authorized = authorized
  opened : x.connector.opened = x.engines.length
  configs : x.engines.map (·.engine.config) = accepted l
  feeds : ∀ key n, x.feed? key = some n ↔ Newest key (accepted l) n
  /-- What has reached an engine was taken from its queue, or is still in it. -/
  queues : ∀ n, taken n l ++ x.queue n = pushed n l

variable {authorized : Option (List String)} {x x' : Exchange} {l : List Entry} {e : Entry}
  {n : Nat} {h h' : Held}

theorem queue_eq (hn : x.engines[n]? = some h) : x.queue n = h.engine.queue := by
  rw [queue, hn]

theorem queue_put (hn : x.engines[n]? = some h) (h' : Held) (m : Nat) :
    (x.put n h').queue m = if n = m then h'.engine.queue else x.queue m := by
  obtain ⟨hlt, -⟩ := List.getElem?_eq_some_iff.mp hn
  unfold queue put
  by_cases hm : n = m
  · subst hm
    rw [if_pos rfl, List.getElem?_set_self hlt]
  · rw [if_neg hm, List.getElem?_set_ne hm]

theorem configs_put (hn : x.engines[n]? = some h)
    (hc : h'.engine.config = h.engine.config) :
    (x.put n h').engines.map (·.engine.config) = x.engines.map (·.engine.config) := by
  obtain ⟨hlt, rfl⟩ := List.getElem?_eq_some_iff.mp hn
  have hset : (x.engines.set n h').map (·.engine.config) =
      (x.engines.set n x.engines[n]).map (·.engine.config) := by
    rw [List.map_set, List.map_set, hc]
  rw [put, hset, List.set_getElem_self]

namespace Tracks

theorem new (authorized : Option (List String)) : Tracks authorized (.new authorized) [] := by
  refine ⟨rfl, rfl, rfl, fun key n => iff_of_false nofun ?_, fun n => rfl⟩
  rintro ⟨⟨config, hc, -⟩, -⟩
  cases hc

/-- An act that opens no engine. -/
theorem next (ht : Tracks authorized x l) (hk : x'.connector = x.connector)
    (hc : x'.engines.map (·.engine.config) = x.engines.map (·.engine.config))
    (ha : e.accepted? = none)
    (hq : ∀ m, x.queue m ++ (e.pushed? m).toList = (e.taken? m).toList ++ x'.queue m) :
    Tracks authorized x' (l ++ [e]) := by
  have hl : accepted (l ++ [e]) = accepted l := by
    simp only [accepted, List.filterMap_append, List.filterMap_cons_none ha, List.filterMap_nil,
      List.append_nil]
  have hsize : x'.engines.length = x.engines.length := by
    simpa only [List.length_map] using congrArg List.length hc
  refine ⟨?_, ?_, ?_, fun key m => ?_, fun m => ?_⟩
  · rw [hk, ht.authorized]
  · rw [hk, hsize, ht.opened]
  · rw [hc, hl, ht.configs]
  · rw [hl, feed?, hk]
    exact ht.feeds key m
  · have hsingle (f : Entry → Option FeedEvent) : [e].filterMap f = (f e).toList := by
      cases hf : f e with
      | none => exact List.filterMap_cons_none hf
      | some event => exact List.filterMap_cons_some hf
    rw [taken, pushed, List.filterMap_append, List.filterMap_append, hsingle, hsingle,
      List.append_assoc, ← hq m, ← List.append_assoc]
    exact congrArg (· ++ _) (ht.queues m)

/-- A connection that succeeds opens an engine with an empty queue. -/
theorem opening (ht : Tracks authorized x l) (config : Config) :
    Tracks authorized ⟨x.connector.opening config, x.engines ++ [⟨.new config, false⟩]⟩
      (l ++ [(.connect config, .connected (.ok ()))]) := by
  have hl : accepted (l ++ [(.connect config, .connected (.ok ()))]) = accepted l ++ [config] := by
    rw [accepted, List.filterMap_append]
    rfl
  have hsize : x.connector.opened = (accepted l).length := by
    rw [ht.opened, ← ht.configs, List.length_map]
  refine ⟨ht.authorized, ?_, ?_, fun key n => ?_, fun n => ?_⟩
  · show x.connector.opened + 1 = _
    rw [ht.opened, List.length_append]
    rfl
  · rw [hl, List.map_append, ht.configs]
    rfl
  · rw [hl, newest_concat, feed?, Connector.feed?_opening, ← hsize]
    split
    · rw [Option.some.injEq, eq_comm]
    · exact ht.feeds key n
  · have hold := ht.queues n
    have hqueue : queue ⟨x.connector.opening config, x.engines ++ [⟨.new config, false⟩]⟩ n =
        x.queue n := by
      unfold queue
      rcases Nat.lt_trichotomy n x.engines.length with hn | rfl | hn
      · rw [List.getElem?_append_left hn]
      · rw [List.getElem?_concat_length, List.getElem?_eq_none (Nat.le_refl _)]
        rfl
      · rw [List.getElem?_eq_none (by simp; omega), List.getElem?_eq_none (by omega)]
    rw [hqueue, taken, pushed, List.filterMap_append, List.filterMap_append]
    simpa only [taken, pushed, Entry.taken?, Entry.pushed?, List.filterMap_cons,
      List.filterMap_nil, List.append_nil] using hold

theorem act (ht : Tracks authorized x l) (a : Act) :
    Tracks authorized (x.act a).2 (l ++ [(a, (x.act a).1)]) := by
  cases a with
  | connect config =>
    rcases x.connector.connect_cases config with ⟨c, -, hc⟩ | ⟨-, hc⟩
    · simp only [Exchange.act, hc]
      exact ht.next rfl rfl rfl fun m => List.append_nil _
    · simp only [Exchange.act, hc]
      exact ht.opening config
  | push n event =>
    simp only [Exchange.act]
    cases hn : x.engines[n]? with
    | none => exact ht.next rfl rfl rfl fun m => List.append_nil _
    | some h =>
      cases hr : h.reached with
      | false =>
        simp only [hr, Bool.false_eq_true, if_false]
        exact ht.next rfl rfl rfl fun m => List.append_nil _
      | true =>
        simp only [hr, if_true]
        refine ht.next rfl (configs_put hn rfl) rfl fun m => ?_
        rw [queue_put hn]
        by_cases hm : n = m
        · subst hm
          rw [queue_eq hn, if_pos rfl, Entry.pushed?, if_pos rfl]
          rfl
        · rw [if_neg hm, Entry.pushed?, if_neg hm]
          exact List.append_nil _
  | work n w =>
    simp only [Exchange.act]
    cases hn : x.engines[n]? with
    | none => exact ht.next rfl rfl rfl fun m => List.append_nil _
    | some h =>
      refine ht.next rfl (configs_put hn (h.work_config w)) rfl fun m => ?_
      rw [queue_put hn]
      by_cases hm : n = m
      · subst hm
        rw [queue_eq hn, if_pos rfl, Entry.taken?, if_pos rfl]
        exact (List.append_nil _).trans (h.work_queue w)
      · rw [if_neg hm, Entry.taken?, if_neg hm]
        exact List.append_nil _

theorem after (ht : Tracks authorized x l) (run : List Act) :
    Tracks authorized (x.after run) (l ++ x.log run) := by
  induction run generalizing x l with
  | nil => rwa [log, List.append_nil]
  | cons a run ih =>
    have hrun := ih (ht.act a)
    rwa [List.append_assoc] at hrun

/-- A feed is known for the keys of the connections that succeeded. -/
theorem feed_isSome (ht : Tracks authorized x l) (key : String) :
    (x.feed? key).isSome = true ↔ ∃ config ∈ accepted l, config.key = key := by
  rw [Option.isSome_iff_exists]
  constructor
  · rintro ⟨n, hn⟩
    obtain ⟨⟨config, hc, hck⟩, -⟩ := (ht.feeds key n).mp hn
    exact ⟨config, List.mem_of_getElem? hc, hck⟩
  · intro hc
    obtain ⟨n, hn⟩ := exists_newest hc
    exact ⟨n, (ht.feeds key n).mpr hn⟩

/-- A number that was once handed out as a feed stays that of an engine with the key. -/
theorem held (ht : Tracks authorized x l) {l' : List Entry}
    (ht' : Tracks authorized x' (l ++ l')) {key : String} (hn : x.feed? key = some n) :
    ∃ h, x'.engines[n]? = some h ∧ h.engine.config.key = key := by
  obtain ⟨⟨config, hc, hck⟩, -⟩ := (ht.feeds key n).mp hn
  have hkeep : (accepted (l ++ l'))[n]? = some config := by
    obtain ⟨hlt, -⟩ := List.getElem?_eq_some_iff.mp hc
    have happend : accepted (l ++ l') = accepted l ++ accepted l' := List.filterMap_append
    rw [happend, List.getElem?_append_left hlt, hc]
  rw [← ht'.configs, List.getElem?_map, Option.map_eq_some_iff] at hkeep
  obtain ⟨h, hh, rfl⟩ := hkeep
  exact ⟨h, hh, hck⟩

end Tracks

/-! ## Single acts -/

/-- What a connection does, and the error if it fails. -/
theorem act_connect (x : Exchange) (config : Config) :
    let y := x.act (.connect config)
    let authorized := x.connector.authorized
    (y.1 = .connected (.ok ()) ↔
      ∀ c : Connector.Condition, c.Holds authorized config) ∧
    (∀ cause, y.1 = .connected (.error cause) ↔
      ∃ c : Connector.Condition, c.Fails authorized config ∧ cause = c.error config) ∧
    (y.1 ≠ .connected (.ok ()) → y.2 = x) := by
  intro y authorized
  rcases x.connector.connect_cases config with ⟨c, hc, hk⟩ | ⟨hall, hk⟩
  · have hy : y = (.connected (.error (c.error config)), x) := by
      simp only [y, act, hk]
    rw [hy]
    refine ⟨iff_of_false nofun fun h => hc.1 (h c), fun cause => ?_, fun _ => rfl⟩
    constructor
    · intro h
      cases h
      exact ⟨c, hc, rfl⟩
    · rintro ⟨d, hd, rfl⟩
      rw [hc.unique hd]
  · have hy : y.1 = .connected (.ok ()) := by
      simp only [y, act, hk]
    refine ⟨iff_of_true hy hall, fun cause => ?_, fun h => absurd hy h⟩
    rw [hy]
    exact iff_of_false nofun fun ⟨c, hc, _⟩ => hc.1 (hall c)

/-- What is pushed is queued at the end by one engine, or by none if the engine is gone. -/
theorem act_push (hn : x.engines[n]? = some h) (event : FeedEvent) :
    let y := x.act (.push n event)
    (h.reached = true →
      y.1 = .accepted true ∧ y.2.engines[n]? = some (h.push event)) ∧
    (h.reached = false → y = (.accepted false, x)) ∧
    y.2.connector = x.connector ∧ ∀ m, m ≠ n → y.2.engines[m]? = x.engines[m]? := by
  obtain ⟨hlt, -⟩ := List.getElem?_eq_some_iff.mp hn
  simp only [act, hn]
  cases hr : h.reached with
  | false => exact ⟨nofun, fun _ => rfl, rfl, fun _ _ => rfl⟩
  | true =>
    refine ⟨fun _ => ⟨rfl, List.getElem?_set_self hlt⟩, nofun, rfl, fun m hm => ?_⟩
    exact List.getElem?_set_ne hm.symm

end Exchange

/-! ## The theorem -/

/-- Let a connector with any list of keys or none open engines, and let these be worked, filled and
dropped in any way. At every point:

* A connection succeeds just if its configuration meets all conditions; otherwise the first
  condition that is not met decides the error, and nothing changes.
* The feed of a key is known just if a connection with the key has succeeded, and it is the feed of
  the engine that the last of them opened.
* A feed that was handed out for a key, now or at any earlier point, is the feed of an engine that
  was opened with the key. What is pushed through it is put at the end of the queue of this engine,
  unless the engine is gone, and changes nothing else.
* The queue of an engine holds what was pushed through its feed less what its loop took, in the
  order in which it was pushed. -/
theorem feeds_follow_connects (authorized : Option (List String)) (run : List Exchange.Act) :
    let new := Exchange.new authorized
    let x := new.after run
    let accepted := Exchange.accepted (new.log run)
    (∀ config,
      let y := x.act (.connect config)
      (y.1 = .connected (.ok ()) ↔ ∀ c : Connector.Condition, c.Holds authorized config) ∧
      (∀ cause, y.1 = .connected (.error cause) ↔
        ∃ c : Connector.Condition, c.Fails authorized config ∧ cause = c.error config) ∧
      (y.1 ≠ .connected (.ok ()) → y.2 = x)) ∧
    (∀ key,
      ((x.feed? key).isSome = true ↔ ∃ config ∈ accepted, config.key = key) ∧
      ∀ n, x.feed? key = some n ↔ Exchange.Newest key accepted n) ∧
    (∀ before later key n, run = before ++ later → (new.after before).feed? key = some n →
      ∃ h, x.engines[n]? = some h ∧ h.engine.config.key = key ∧ ∀ event,
        let y := x.act (.push n event)
        (h.reached = true →
          y.1 = .accepted true ∧ y.2.engines[n]? = some (h.push event)) ∧
        (h.reached = false → y = (.accepted false, x)) ∧
        y.2.connector = x.connector ∧ ∀ m, m ≠ n → y.2.engines[m]? = x.engines[m]?) ∧
    ∀ n, Exchange.taken n (new.log run) ++ x.queue n = Exchange.pushed n (new.log run) := by
  intro new x accepted
  have tracks (acts : List Exchange.Act) :
      Exchange.Tracks authorized (new.after acts) (new.log acts) :=
    (Exchange.Tracks.new authorized).after acts
  have ht := tracks run
  refine ⟨fun config => ?_, fun key => ⟨ht.feed_isSome key, ht.feeds key⟩, ?_, ht.queues⟩
  · have hc := x.act_connect config
    rwa [ht.authorized] at hc
  · rintro before later key n rfl hn
    have hlog : new.log (before ++ later) = new.log before ++ (new.after before).log later :=
      new.log_append before later
    obtain ⟨h, hh, hkey⟩ := (tracks before).held (hlog ▸ ht) hn
    exact ⟨h, hh, hkey, fun event => Exchange.act_push hh event⟩

end MarketFeed
