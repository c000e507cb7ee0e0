import Mathlib.Data.List.Nodup
import MarketFeed.Config.Json
import MarketFeed.Proofs.Config.Setters
import MarketFeed.Proofs.Json.Messages

set_option autoImplicit false

/-!
# Configurations that are read

Which objects are read as a configuration, and as which one. An object lists a record
(`Json.Listed`) if each field is a member at most once, with a value that tells what is in the
field, and a field that is no member may be left out; the order of the members and members of other
names do not matter. `Config.ofJson?_obj` says that an object is read as just the configuration that
it lists, where fields that are left out have their defaults. From this follows what a flaw in a
member does (`Config.Flawed`), and that a configuration which was written is read back
(`Config.listed_json`). `config_objects` says it of texts.
-/

namespace MarketFeed

namespace Json

/-! ## Members -/

abbrev Members := List (Literal × Json)

/-- The object has a member of this name and value. -/
def Given (ms : Members) (name : String) (j : Json) : Prop := (some name, j) ∈ ms

/-- The object has more than one member of this name. -/
def Repeated (ms : Members) (name : String) : Prop := 1 < (ms.filter (·.1 == some name)).length

/-- The object lists a record: `tells i j` says that the value `j` is what the field `i` has, and
`omits i` that the field may be left out. -/
structure Listed {ι : Type} (name : ι → String) (tells : ι → Json → Prop) (omits : ι → Prop)
    (ms : Members) : Prop where
  /-- Every name is a text. -/
  named : ∀ m ∈ ms, m.1 ≠ none
  once : ∀ i, ¬ Repeated ms (name i)
  told : ∀ i j, Given ms (name i) j → tells i j
  omitted : ∀ i, (∀ j, ¬ Given ms (name i) j) → omits i

section Members

variable {ms : Members} {name : String} {j : Json}

theorem given_iff : Given ms name j ↔ (some name, j) ∈ ms.filter (·.1 == some name) := by
  simp [Given, List.mem_filter]

/-- A name that is not repeated is missing, or has one value. -/
theorem given_cases (h : ¬ Repeated ms name) :
    (ms.find? (·.1 == some name) = none ∧ ∀ j, ¬ Given ms name j) ∨
      ∃ v, ms.find? (·.1 == some name) = some (some name, v) ∧
        ∀ j, Given ms name j ↔ j = v := by
  -- what is found and how often are both read off the members of this name
  rw [← List.head?_filter]
  simp only [given_iff]
  unfold Repeated at h
  have hall : ∀ m ∈ ms.filter (·.1 == some name), m.1 = some name := fun m hm => by
    simpa using (List.mem_filter.mp hm).2
  generalize ms.filter (·.1 == some name) = found at h hall
  rcases found with _ | ⟨⟨l, v⟩, _ | ⟨_, _⟩⟩
  · exact .inl ⟨rfl, fun _ => List.not_mem_nil⟩
  · obtain rfl : l = some name := hall _ (List.mem_singleton_self _)
    exact .inr ⟨v, rfl, fun j => by simp⟩
  · simp at h

theorem field?_eq_some_iff {α : Type} {read : Json → Option α} {default : Option α} {a : α}
    (h : ¬ Repeated ms name) : field? ms name read default = some a ↔
      (∀ j, Given ms name j → read j = some a) ∧
        ((∀ j, ¬ Given ms name j) → default = some a) := by
  unfold field?
  rcases given_cases h with ⟨hfind, hnone⟩ | ⟨v, hfind, hv⟩ <;> rw [hfind]
  · exact ⟨fun hd => ⟨fun j hj => absurd hj (hnone j), fun _ => hd⟩, fun hd => hd.2 hnone⟩
  · refine ⟨fun hr => ⟨fun j hj => (hv j).mp hj ▸ hr, fun hn => ?_⟩, fun hr => ?_⟩
    · exact absurd ((hv v).mpr rfl) (hn v)
    · exact hr.1 v ((hv v).mpr rfl)

theorem membersOnce_iff {known : List String} : membersOnce known ms = true ↔
    (∀ m ∈ ms, m.1 ≠ none) ∧ ∀ name ∈ known, ¬ Repeated ms name := by
  simp only [membersOnce, Repeated, Bool.and_eq_true, List.all_eq_true, decide_eq_true_eq,
    Option.isSome_iff_ne_none, Nat.not_lt]

/-- The members of a record are read, one by one, as the values that they list. -/
theorem listed_iff {ι : Type} {name : ι → String} {all : List ι} (hall : ∀ i, i ∈ all)
    {α : ι → Type} {read : ∀ i, Json → Option (α i)} {default : ∀ i, Option (α i)}
    {a : ∀ i, α i} :
    (membersOnce (all.map name) ms = true ∧
        ∀ i, field? ms (name i) (read i) (default i) = some (a i)) ↔
      Listed name (fun i j => read i j = some (a i)) (fun i => default i = some (a i)) ms := by
  rw [membersOnce_iff, List.forall_mem_map]
  constructor
  · rintro ⟨⟨hnamed, honce⟩, hfield⟩
    have honce (i : ι) : ¬ Repeated ms (name i) := honce i (hall i)
    exact ⟨hnamed, honce, fun i => ((field?_eq_some_iff (honce i)).mp (hfield i)).1,
      fun i => ((field?_eq_some_iff (honce i)).mp (hfield i)).2⟩
  · rintro ⟨hnamed, honce, htold, homitted⟩
    exact ⟨⟨hnamed, fun i _ => honce i⟩,
      fun i => (field?_eq_some_iff (honce i)).mpr ⟨htold i, homitted i⟩⟩

theorem Listed.congr {ι : Type} {name : ι → String} {tells tells' : ι → Json → Prop}
    {omits omits' : ι → Prop} (ht : ∀ i j, tells i j ↔ tells' i j)
    (ho : ∀ i, omits i ↔ omits' i) :
    Listed name tells omits ms ↔ Listed name tells' omits' ms :=
  ⟨fun ⟨hn, h1, h, h'⟩ => ⟨hn, h1, fun i j hj => (ht i j).mp (h i j hj),
      fun i hi => (ho i).mp (h' i hi)⟩,
    fun ⟨hn, h1, h, h'⟩ => ⟨hn, h1, fun i j hj => (ht i j).mpr (h i j hj),
      fun i hi => (ho i).mpr (h' i hi)⟩⟩

/-- An object with one member a field lists the record. -/
theorem listed_all {ι : Type} {name : ι → String} {tells : ι → Json → Prop} {omits : ι → Prop}
    {all : List ι} (hall : ∀ i, i ∈ all) (hname : (all.map name).Nodup) {value : ι → Json}
    (h : ∀ i, tells i (value i)) :
    Listed name tells omits (all.map fun i => (some (name i), value i)) where
  named m hm := by
    obtain ⟨i, -, rfl⟩ := List.mem_map.mp hm
    exact Option.some_ne_none _
  once i := by
    have hcount := List.nodup_iff_count_le_one.mp hname (name i)
    rw [List.count, List.countP_map, List.countP_eq_length_filter] at hcount
    rw [Repeated, List.filter_map, List.length_map, Nat.not_lt]
    exact hcount
  told i j hj := by
    obtain ⟨k, hk, he⟩ := List.mem_map.mp hj
    rw [Prod.mk.injEq, Option.some.injEq] at he
    obtain ⟨hki, rfl⟩ := he
    obtain rfl := List.inj_on_of_nodup_map hname hk (hall i) hki
    exact h k
  omitted i hi := absurd (List.mem_map.mpr ⟨i, hall i, rfl⟩) (hi (value i))

/-- The object cannot list a record: a field has two members, or one of a value that is `misfit` for
it, or is missing when the record `needs` it. -/
inductive Flawed {ι : Type} (name : ι → String) (misfit : ι → Json → Prop) (needs : ι → Prop)
    (ms : Members) : Prop
  | repeated {i : ι} : Repeated ms (name i) → Flawed name misfit needs ms
  | misfit {i : ι} {j : Json} : Given ms (name i) j → misfit i j → Flawed name misfit needs ms
  | missing {i : ι} : needs i → (∀ j, ¬ Given ms (name i) j) → Flawed name misfit needs ms

theorem Flawed.not_listed {ι : Type} {name : ι → String} {misfit tells : ι → Json → Prop}
    {needs omits : ι → Prop} (hm : ∀ i j, misfit i j → ¬ tells i j)
    (hn : ∀ i, needs i → ¬ omits i) (hf : Flawed name misfit needs ms) :
    ¬ Listed name tells omits ms := by
  intro h
  cases hf with
  | repeated hr => exact h.once _ hr
  | misfit hg hj => exact hm _ _ hj (h.told _ _ hg)
  | missing hi hg => exact hn _ hi (h.omitted _ hg)

end Members

/-! ## Values -/

section Values

variable {j : Json}

theorem string?_eq_some_iff {s : String} : j.string? = some s ↔ j = text s := by
  cases j <;> simp [string?, text]

theorem bool?_eq_some_iff {b : Bool} : j.bool? = some b ↔ j = bool b := by
  cases j <;> simp [bool?]

theorem below?_eq_some_iff {bound n : Nat} : below? bound j = some n ↔ n < bound ∧ j = nat n := by
  cases j with
  | int i =>
    simp only [below?, nat, int.injEq]
    split
    · rename_i h
      rw [Option.some.injEq]
      omega
    · rename_i h
      refine iff_of_false (fun h => by cases h) fun hn => h ?_
      omega
  | _ => simp [below?, nat]

/-- A number of a bounded type is read off just the integer that it is. -/
theorem map_below?_eq_some_iff {α : Type} {bound : Nat} {ofNat : Nat → α} {toNat : α → Nat}
    (hlt : ∀ a, toNat a < bound) (hto : ∀ n, n < bound → toNat (ofNat n) = n)
    (hof : ∀ a, ofNat (toNat a) = a) {a : α} :
    (below? bound j).map ofNat = some a ↔ j = nat (toNat a) := by
  simp only [Option.map_eq_some_iff, below?_eq_some_iff]
  constructor
  · rintro ⟨n, ⟨hn, rfl⟩, rfl⟩
    rw [hto n hn]
  · rintro rfl
    exact ⟨toNat a, ⟨hlt a, rfl⟩, hof a⟩

theorem u16?_eq_some_iff {n : UInt16} : u16? j = some n ↔ j = nat n.toNat :=
  map_below?_eq_some_iff UInt16.toNat_lt (fun _ => UInt16.toNat_ofNat_of_lt')
    fun _ => UInt16.ofNat_toNat

theorem u32?_eq_some_iff {n : UInt32} : u32? j = some n ↔ j = nat n.toNat :=
  map_below?_eq_some_iff UInt32.toNat_lt (fun _ => UInt32.toNat_ofNat_of_lt')
    fun _ => UInt32.ofNat_toNat

theorem u64?_eq_some_iff {n : UInt64} : u64? j = some n ↔ j = nat n.toNat :=
  map_below?_eq_some_iff UInt64.toNat_lt (fun _ => UInt64.toNat_ofNat_of_lt')
    fun _ => UInt64.ofNat_toNat

/-- What stands for a value that may be missing. -/
def TellsOption {α : Type} (tells : α → Json → Prop) : Option α → Json → Prop
  | none, j => j = .null
  | some a, j => tells a j

theorem orNull?_eq_some_iff {α : Type} {read : Json → Option α} {tells : α → Json → Prop}
    (h : ∀ a j, read j = some a ↔ tells a j) (hn : read .null = none) {o : Option α} :
    orNull? read j = some o ↔ TellsOption tells o j := by
  have hnull (a : α) : ¬ tells a .null := fun ha => by
    rw [(h a .null).mpr ha] at hn
    cases hn
  by_cases hj : j = .null
  · subst hj
    cases o with
    | none => exact iff_of_true rfl rfl
    | some a => exact iff_of_false (fun h => by cases h) (hnull a)
  · have hread : orNull? read j = (read j).map some := by
      cases j <;> first | rfl | exact absurd rfl hj
    rw [hread, Option.map_eq_some_iff]
    cases o with
    | none => exact iff_of_false (fun ⟨_, _, h⟩ => by cases h) hj
    | some a => simp [TellsOption, h]

theorem tellsOption_orNull {α : Type} {f : α → Json} {tells : α → Json → Prop}
    (h : ∀ a, tells a (f a)) (o : Option α) : TellsOption tells o (orNull f o) := by
  cases o with
  | none => rfl
  | some a => exact h a

/-- What stands for a choice: its name, or an object with nothing but this name. -/
def TellsName (name : String) (j : Json) : Prop := j = text name ∨ j = .obj [(some name, .null)]

theorem choice?_eq_some_iff {α : Type} {ofName? : String → Option α} {a : α} :
    choice? ofName? j = some a ↔ ∃ name, ofName? name = some a ∧ TellsName name j := by
  unfold choice?
  split
  · rename_i name
    simp [TellsName, text]
  · rename_i name
    simp [TellsName, text]
  · rename_i hstr hobj
    refine iff_of_false (fun h => by cases h) ?_
    rintro ⟨name, -, rfl | rfl⟩
    · exact hstr name rfl
    · exact hobj name rfl

end Values

end Json

/-! ## Gateways -/

namespace Gateway

inductive Field where
  | host | port
  deriving DecidableEq

namespace Field

def all : List Field := [host, port]

theorem mem_all (f : Field) : f ∈ all := by
  cases f <;> decide

def name : Field → String
  | host => "host" | port => "port"

def Value : Field → Type
  | host => String
  | port => UInt16

def read? : (f : Field) → Json → Option f.Value
  | host => Json.string?
  | port => Json.u16?

def json : (f : Field) → f.Value → Json
  | host, s => .text s
  | port, n => .nat n.toNat

theorem read?_eq_some_iff {f : Field} {v : f.Value} {j : Json} :
    f.read? j = some v ↔ j = f.json v := by
  cases f with
  | host => exact Json.string?_eq_some_iff
  | port => exact Json.u16?_eq_some_iff

/-- Values that no gateway has in the field. -/
def Misfit : Field → Json → Prop
  | host, j => ∀ l, j ≠ .str l
  | port, j => ∀ n < UInt16.size, j ≠ .nat n

theorem Misfit.ne_json {f : Field} {j : Json} (h : f.Misfit j) (v : f.Value) : j ≠ f.json v := by
  cases f with
  | host => exact h (some v)
  | port => exact h v.toNat v.toNat_lt

end Field

def get (g : Gateway) : (f : Field) → f.Value
  | .host => g.host
  | .port => g.port

/-- The object lists the gateway, with both fields. -/
def Listed (g : Gateway) : Json.Members → Prop :=
  Json.Listed Field.name (fun f j => j = f.json (g.get f)) fun _ => False

/-- What stands for a gateway: an object that lists it, or an array of its fields. -/
def Tells (g : Gateway) (j : Json) : Prop :=
  (∃ ms, j = .obj ms ∧ g.Listed ms) ∨ j = .arr (Field.all.map fun f => f.json (g.get f))

theorem ofJson?_obj {g : Gateway} {ms : Json.Members} :
    ofJson? (.obj ms) = some g ↔ g.Listed ms := by
  -- neither field has a default, so neither may be left out
  have hlisted : (Json.membersOnce (Field.all.map Field.name) ms = true ∧
      ∀ f : Field, Json.field? ms f.name f.read? none = some (g.get f)) ↔ g.Listed ms :=
    (Json.listed_iff Field.mem_all).trans (Json.Listed.congr
      (fun _ _ => Field.read?_eq_some_iff) fun _ => iff_of_false (fun h => by cases h) id)
  rw [← hlisted]
  simp only [ofJson?]
  split
  · rename_i honce
    simp only [Option.bind_eq_bind, Option.bind_eq_some_iff, Option.pure_def, Option.some.injEq]
    constructor
    · rintro ⟨host, hhost, port, hport, rfl⟩
      refine ⟨honce, fun f => ?_⟩
      cases f with
      | host => exact hhost
      | port => exact hport
    · exact fun ⟨_, h⟩ => ⟨_, h .host, _, h .port, rfl⟩
  · rename_i honce
    exact iff_of_false (fun h => by cases h) fun h => honce h.1

theorem ofJson?_arr {g : Gateway} {host port : Json} :
    ofJson? (.arr [host, port]) = some g ↔ host = .text g.host ∧ port = .nat g.port.toNat := by
  simp only [ofJson?, Option.bind_eq_bind, Option.bind_eq_some_iff, Option.pure_def,
    Option.some.injEq, Json.string?_eq_some_iff, Json.u16?_eq_some_iff]
  constructor
  · rintro ⟨host, hhost, port, hport, rfl⟩
    exact ⟨hhost, hport⟩
  · exact fun ⟨hhost, hport⟩ => ⟨_, hhost, _, hport, rfl⟩

theorem ofJson?_eq_some_iff {g : Gateway} {j : Json} : ofJson? j = some g ↔ g.Tells j := by
  cases j with
  | obj ms => simp [ofJson?_obj, Tells]
  | arr items =>
    match items with
    | [host, port] => simp [ofJson?_arr, Tells, Field.all, Field.json, get]
    | [] | [_] | _ :: _ :: _ :: _ => simp [ofJson?, Tells, Field.all]
  | _ => simp [ofJson?, Tells]

theorem tells_json (g : Gateway) : g.Tells g.json := by
  have hlisted : g.Listed (Field.all.map fun f => (some f.name, f.json (g.get f))) :=
    Json.listed_all Field.mem_all (by decide) fun _ => rfl
  exact .inl ⟨_, rfl, hlisted⟩

theorem json_wellSpelt (g : Gateway) : g.json.WellSpelt := by
  refine Json.wellSpelt_object fun m hm => ?_
  simp only [List.mem_cons, List.not_mem_nil, or_false] at hm
  rcases hm with rfl | rfl
  · exact .str
  · exact .int

/-- The object can be no gateway. -/
def Flawed : Json.Members → Prop := Json.Flawed Field.name Field.Misfit fun _ => True

theorem Flawed.not_listed {ms : Json.Members} (h : Flawed ms) (g : Gateway) : ¬ g.Listed ms :=
  Json.Flawed.not_listed (fun _ _ hm => hm.ne_json _) (fun _ _ => id) h

end Gateway

/-! ## Configurations -/

theorem UpgradePolicy.ofName?_eq_some_iff {s : String} {p : UpgradePolicy} :
    ofName? s = some p ↔ s = p.name := by
  constructor
  · intro h
    have hs := List.find?_some h
    exact (eq_of_beq hs).symm
  · rintro rfl
    cases p <;> decide

namespace Config

namespace Field

/-- Every field in the order of the names. -/
def all : List Field :=
  [key, dataset, sendTsOut, upgradePolicy, heartbeat, gateway, bufferSize, shutdownTimeout]

theorem mem_all (f : Field) : f ∈ all := by
  cases f <;> decide

def name : Field → String
  | key => "key"
  | dataset => "dataset"
  | sendTsOut => "send_ts_out"
  | upgradePolicy => "upgrade_policy"
  | heartbeat => "heartbeat_interval_secs"
  | gateway => "gateway"
  | bufferSize => "buffer_size"
  | shutdownTimeout => "shutdown_timeout_ms"

def read? : (f : Field) → Json → Option f.Value
  | key | dataset => Json.string?
  | sendTsOut => Json.bool?
  | upgradePolicy => Json.choice? UpgradePolicy.ofName?
  | heartbeat => Json.orNull? Json.u32?
  | gateway => Json.orNull? Gateway.ofJson?
  | bufferSize | shutdownTimeout => Json.u64?

/-- The value says what is in the field. -/
def Tells : (f : Field) → f.Value → Json → Prop
  | key, s, j | dataset, s, j => j = .text s
  | sendTsOut, b, j => j = .bool b
  | upgradePolicy, p, j => Json.TellsName p.name j
  | heartbeat, o, j => Json.TellsOption (fun n i => i = .nat n.toNat) o j
  | gateway, o, j => Json.TellsOption Gateway.Tells o j
  | bufferSize, n, j | shutdownTimeout, n, j => j = .nat n.toNat

theorem read?_eq_some_iff {f : Field} {v : f.Value} {j : Json} :
    f.read? j = some v ↔ f.Tells v j := by
  cases f with
  | key | dataset => exact Json.string?_eq_some_iff
  | sendTsOut => exact Json.bool?_eq_some_iff
  | upgradePolicy =>
    refine Json.choice?_eq_some_iff.trans ⟨?_, fun h => ?_⟩
    · rintro ⟨s, hs, h⟩
      rwa [UpgradePolicy.ofName?_eq_some_iff.mp hs] at h
    · exact ⟨_, UpgradePolicy.ofName?_eq_some_iff.mpr rfl, h⟩
  | heartbeat => exact Json.orNull?_eq_some_iff (fun _ _ => Json.u32?_eq_some_iff) rfl
  | gateway => exact Json.orNull?_eq_some_iff (fun _ _ => Gateway.ofJson?_eq_some_iff) rfl
  | bufferSize | shutdownTimeout => exact Json.u64?_eq_some_iff

def json : (f : Field) → f.Value → Json
  | key, s | dataset, s => .text s
  | sendTsOut, b => .bool b
  | upgradePolicy, p => .text p.name
  | heartbeat, o => .orNull (fun n => .nat n.toNat) o
  | gateway, o => .orNull Gateway.json o
  | bufferSize, n | shutdownTimeout, n => .nat n.toNat

theorem tells_json {f : Field} (v : f.Value) : f.Tells v (f.json v) := by
  cases f with
  | upgradePolicy => exact .inl rfl
  | heartbeat => cases v <;> rfl
  | gateway => exact Json.tellsOption_orNull Gateway.tells_json v
  | _ => rfl

/-- Values that no configuration has in the field. -/
def Misfit : Field → Json → Prop
  | key, j | dataset, j => ∀ l, j ≠ .str l
  | sendTsOut, j => ∀ b, j ≠ .bool b
  | upgradePolicy, j => j = .null ∨ ∃ l, j = .str l ∧ ∀ p : UpgradePolicy, l ≠ some p.name
  | heartbeat, j => j ≠ .null ∧ ∀ n < UInt32.size, j ≠ .nat n
  | gateway, j => ∃ ms, j = .obj ms ∧ Gateway.Flawed ms
  | bufferSize, j | shutdownTimeout, j => ∀ n < UInt64.size, j ≠ .nat n

theorem Misfit.not_tells {f : Field} {j : Json} (h : f.Misfit j) (v : f.Value) :
    ¬ f.Tells v j := by
  cases f with
  | key | dataset => exact h (some v)
  | sendTsOut => exact h v
  | upgradePolicy =>
    rcases h with rfl | ⟨l, rfl, hl⟩
    · rintro (h | h) <;> cases h
    · rintro (h | h) <;> cases h
      exact hl v rfl
  | heartbeat =>
    cases v with
    | none => exact h.1
    | some n => exact h.2 n.toNat n.toNat_lt
  | gateway =>
    obtain ⟨ms, rfl, hms⟩ := h
    cases v with
    | none => exact fun h => by cases h
    | some g =>
      rintro (⟨_, h, hg⟩ | h) <;> cases h
      exact hms.not_listed g hg
  | bufferSize | shutdownTimeout => exact h v.toNat v.toNat_lt

end Field

/-- The object lists the configuration: a field may be left out if it has its default. -/
def Listed (c : Config) : Json.Members → Prop :=
  Json.Listed Field.name (fun f j => f.Tells (c.get f) j)
    fun f => c.get f = ({} : Config).get f

theorem ofMembers?_eq_some_iff {c : Config} {ms : Json.Members} :
    ofMembers? ms = some c ↔ ∀ f : Field,
      Json.field? ms f.name f.read? (some (({} : Config).get f)) = some (c.get f) := by
  simp only [ofMembers?, Option.bind_eq_bind, Option.bind_eq_some_iff, Option.pure_def,
    Option.some.injEq]
  constructor
  · rintro ⟨key, hkey, dataset, hdataset, sendTsOut, hsendTsOut, policy, hpolicy, heartbeat,
      hheartbeat, gateway, hgateway, size, hsize, timeout, htimeout, rfl⟩ f
    cases f with
    | key => exact hkey
    | dataset => exact hdataset
    | sendTsOut => exact hsendTsOut
    | upgradePolicy => exact hpolicy
    | heartbeat => exact hheartbeat
    | gateway => exact hgateway
    | bufferSize => exact hsize
    | shutdownTimeout => exact htimeout
  · exact fun h => ⟨_, h .key, _, h .dataset, _, h .sendTsOut, _, h .upgradePolicy, _,
      h .heartbeat, _, h .gateway, _, h .bufferSize, _, h .shutdownTimeout, rfl⟩

/-- An object is read as the configuration that it lists. -/
theorem ofJson?_obj {c : Config} {ms : Json.Members} :
    ofJson? (.obj ms) = some c ↔ c.Listed ms := by
  have hlisted : (Json.membersOnce (Field.all.map Field.name) ms = true ∧
      ∀ f : Field, Json.field? ms f.name f.read? (some (({} : Config).get f)) = some (c.get f)) ↔
      c.Listed ms :=
    (Json.listed_iff Field.mem_all).trans (Json.Listed.congr
      (fun _ _ => Field.read?_eq_some_iff) fun _ => Option.some_inj.trans eq_comm)
  rw [← hlisted, ← ofMembers?_eq_some_iff]
  simp only [ofJson?]
  split
  · rename_i honce
    exact ⟨fun h => ⟨honce, h⟩, fun h => h.2⟩
  · rename_i honce
    exact iff_of_false (fun h => by cases h) fun h => honce h.1

/-- What is written of a configuration lists it. -/
theorem listed_json (c : Config) : ∃ ms, c.json = .obj ms ∧ c.Listed ms := by
  have hlisted : c.Listed (Field.all.map fun f => (some f.name, f.json (c.get f))) :=
    Json.listed_all Field.mem_all (by decide) fun _ => Field.tells_json _
  exact ⟨_, rfl, hlisted⟩

theorem json_wellSpelt (c : Config) : c.json.WellSpelt := by
  refine Json.wellSpelt_object fun m hm => ?_
  simp only [List.mem_cons, List.not_mem_nil, or_false] at hm
  rcases hm with rfl | rfl | rfl | rfl | rfl | rfl | rfl | rfl
  · exact .str
  · exact .str
  · exact .bool
  · exact .str
  · exact Json.wellSpelt_orNull (fun _ => .int) _
  · exact Json.wellSpelt_orNull Gateway.json_wellSpelt _
  · exact .int
  · exact .int

/-- The object can be no configuration. -/
def Flawed : Json.Members → Prop := Json.Flawed Field.name Field.Misfit fun _ => False

theorem Flawed.not_listed {ms : Json.Members} (h : Flawed ms) (c : Config) : ¬ c.Listed ms :=
  Json.Flawed.not_listed (fun _ _ hm => hm.not_tells _) (fun _ => False.elim) h

theorem parse?_eq {text : String} {j : Json} (h : Json.Document text j) :
    parse? text = ofJson? j := by
  rw [parse?, Json.parse?_eq_some_iff.mpr h, Option.bind_some]

end Config

/-- How the text of an object is read as a configuration:

* It is read as a configuration if and only if its members list that one.
* What is written of a configuration is read as that configuration.
* It is refused if a field is repeated or has a value that does not fit. -/
theorem config_objects :
    (∀ (text : String) (ms : Json.Members), Json.Document text (.obj ms) → ∀ c : Config,
      Config.parse? text = some c ↔ c.Listed ms) ∧
    (∀ c : Config, Config.parse? c.json.compact = some c) ∧
    ∀ (text : String) (ms : Json.Members), Json.Document text (.obj ms) → Config.Flawed ms →
      Config.parse? text = none := by
  have hread (text : String) (ms : Json.Members) (h : Json.Document text (.obj ms)) (c : Config) :
      Config.parse? text = some c ↔ c.Listed ms := by
    rw [Config.parse?_eq h, Config.ofJson?_obj]
  refine ⟨hread, fun c => ?_, fun text ms h hf => ?_⟩
  · obtain ⟨ms, hms, hlisted⟩ := c.listed_json
    have hdocument := c.json_wellSpelt.document
    rw [hms] at hdocument ⊢
    exact (hread _ ms hdocument c).mpr hlisted
  · rw [Option.eq_none_iff_forall_ne_some]
    exact fun c hc => hf.not_listed c ((hread text ms h c).mp hc)

/-- A key whose name has an escape, after a gateway with a member of another name; and a key under
both spellings of its name. -/
theorem config_objects_spelt :
    Config.parse?
        "\x7b\"gateway\":\x7b\"port\":1,\"x\":[],\"host\":\"h\"\x7d,\"\\u006bey\":\"K\"\x7d" =
      some { key := "K", gatewayOverride := some ⟨"h", 1⟩ } ∧
    Config.parse? "\x7b\"key\":\"K\",\"\\u006bey\":\"K\"\x7d" = none := by
  let gateway : Json := .obj [(some "port", .nat 1), (some "x", .arr []), (some "host", .text "h")]
  refine ⟨(config_objects.1 _ [(some "gateway", gateway), (some "key", .text "K")] ?_ _).mpr ?_,
    config_objects.2.2 _ [(some "key", .text "K"), (some "key", .text "K")] ?_
      (.repeated (i := .key) ?_)⟩
  · rw [← Json.parse?_eq_some_iff]
    simp only [Json.parse?, String.reduceToList]
    rfl
  · exact Config.ofJson?_obj.mp rfl
  · rw [← Json.parse?_eq_some_iff]
    simp only [Json.parse?, String.reduceToList]
    rfl
  · rw [Json.Repeated]
    decide

end MarketFeed
