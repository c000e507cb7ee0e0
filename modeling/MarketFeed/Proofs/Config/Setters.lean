import MarketFeed.Proofs.Text.Blank
import MarketFeed.Session.Opening

set_option autoImplicit false

/-!
# Filling in a configuration

A call of a setter (`Setter`) is for one field and gives it one value (`Setter.value`), or is
refused; which of the two, its argument alone decides (`Setter.Fit`, `Setter.settled`). So the
fields of a configuration can be read off the calls that were made and their answers:

* `Config.get_after`: a field has the value of the last call for it that succeeded (`latest`).
* `Config.Tidy`: what holds of every configuration that setters have filled in (`Tidy.after`).
* `setters_fill_in`: the above, with what a failing call does, the exchange of calls for different
  fields, and when a session can be opened.
-/

namespace MarketFeed

/-- A length of time, in seconds and nanoseconds. -/
structure Duration where
  seconds : UInt64
  nanos : Fin 1000000000
  deriving DecidableEq

namespace Duration

/-- The whole milliseconds of a length of time. -/
def millis (d : Duration) : Nat := d.seconds.toNat * 1000 + d.nanos.val / 1000000

/-- The milliseconds as a number below 2⁶⁴, the greatest one if there are more. -/
def saturated (d : Duration) : UInt64 :=
  if h : d.millis < UInt64.size then .ofNatLT d.millis h else .ofNat (UInt64.size - 1)

theorem saturated_eq (d : Duration) : d.saturated = .ofNat (min d.millis (UInt64.size - 1)) := by
  unfold saturated
  split
  · rename_i h
    rw [Nat.min_eq_left (by omega), UInt64.ofNatLT_eq_ofNat]
  · rename_i h
    rw [Nat.min_eq_right (by omega)]

end Duration

/-! ## Fields -/

namespace Config

inductive Field where
  | key | dataset | sendTsOut | upgradePolicy | heartbeat | gateway | bufferSize | shutdownTimeout
  deriving DecidableEq

/-- What the values of a field are. -/
def Field.Value : Field → Type
  | key | dataset => String
  | sendTsOut => Bool
  | upgradePolicy => UpgradePolicy
  | heartbeat => Option UInt32
  | gateway => Option Gateway
  | bufferSize | shutdownTimeout => UInt64

def get (c : Config) : (f : Field) → f.Value
  | .key => c.key
  | .dataset => c.dataset
  | .sendTsOut => c.sendTsOut
  | .upgradePolicy => c.upgradePolicy
  | .heartbeat => c.heartbeat
  | .gateway => c.gatewayOverride
  | .bufferSize => c.bufferSize
  | .shutdownTimeout => c.shutdownTimeout

def set (c : Config) : (f : Field) → f.Value → Config
  | .key, v => { c with key := v }
  | .dataset, v => { c with dataset := v }
  | .sendTsOut, v => { c with sendTsOut := v }
  | .upgradePolicy, v => { c with upgradePolicy := v }
  | .heartbeat, v => { c with heartbeat := v }
  | .gateway, v => { c with gatewayOverride := v }
  | .bufferSize, v => { c with bufferSize := v }
  | .shutdownTimeout, v => { c with shutdownTimeout := v }

@[simp] theorem get_set_self (c : Config) (f : Field) (v : f.Value) : (c.set f v).get f = v := by
  cases f <;> rfl

theorem get_set_ne (c : Config) {f g : Field} (h : f ≠ g) (v : f.Value) :
    (c.set f v).get g = c.get g := by
  cases f <;> cases g <;> first | rfl | exact absurd rfl h

theorem set_comm (c : Config) {f g : Field} (h : f ≠ g) (v : f.Value) (w : g.Value) :
    (c.set f v).set g w = (c.set g w).set f v := by
  cases f <;> cases g <;> first | rfl | exact absurd rfl h

end Config

/-! ## Setters -/

/-- A call of a setter. -/
inductive Setter where
  | key (key : String)
  /-- The bytes of the environment variable, if it is set. -/
  | keyFromEnvironment (variableBytes : Option Bytes)
  | dataset (code : String)
  | knownDataset (code : String) (known : Dataset.known code = true)
  | sendTsOut (sendTsOut : Bool)
  | upgradePolicy (policy : UpgradePolicy)
  | heartbeat (seconds : UInt32)
  | address (host : String) (port : UInt16)
  | bufferSize (size : UInt64)
  | shutdownTimeout (timeout : Duration)

/-- The answer to a call, and the configuration after it. -/
def Config.call (c : Config) : Setter → Edited
  | .key k => c.setKey k
  | .keyFromEnvironment bytes => c.setKeyFromEnvironment bytes
  | .dataset code => c.setDataset code
  | .knownDataset code _ => (.ok (), c.setKnownDataset code)
  | .sendTsOut b => (.ok (), c.setSendTsOut b)
  | .upgradePolicy policy => (.ok (), c.setUpgradePolicy policy)
  | .heartbeat seconds => c.setHeartbeat seconds
  | .address host port => c.setAddress host port
  | .bufferSize size => c.setBufferSize size
  | .shutdownTimeout timeout => (.ok (), c.setShutdownTimeout timeout.millis)

namespace Setter

def field : Setter → Config.Field
  | key _ | keyFromEnvironment _ => .key
  | dataset _ | knownDataset .. => .dataset
  | sendTsOut _ => .sendTsOut
  | upgradePolicy _ => .upgradePolicy
  | heartbeat _ => .heartbeat
  | address .. => .gateway
  | bufferSize _ => .bufferSize
  | shutdownTimeout _ => .shutdownTimeout

/-- The value that a call gives to its field if it succeeds: a dataset and a host are trimmed, and a
time is counted in milliseconds. -/
def value : (s : Setter) → s.field.Value
  | key k => k
  | keyFromEnvironment bytes => String.ofList ((bytes.bind Utf8.decode?).getD [])
  | dataset code => trim code
  | knownDataset code _ => code
  | sendTsOut b => b
  | upgradePolicy policy => policy
  | heartbeat seconds => some seconds
  | address host port => some ⟨trim host, port⟩
  | bufferSize size => size
  | shutdownTimeout timeout => timeout.saturated

/-- What a setter asks of its argument. -/
def Fit : Setter → Prop
  | key k => trim k ≠ ""
  | keyFromEnvironment bytes =>
    ∃ cs, bytes.bind Utf8.decode? = some cs ∧ trim (String.ofList cs) ≠ ""
  | dataset code => trim code ≠ ""
  | heartbeat seconds => seconds ≠ 0
  | address host port => trim host ≠ "" ∧ port ≠ 0
  | bufferSize size => size ≠ 0
  | knownDataset .. | sendTsOut _ | upgradePolicy _ | shutdownTimeout _ => True

/-- A key that is no blank is set. -/
theorem setKey_cases (k : String) :
    (trim k = "" ∧ ∃ e, ∀ c : Config, c.setKey k = (.error e, c)) ∨
      (trim k ≠ "" ∧ ∀ c : Config, c.setKey k = (.ok (), c.set .key k)) := by
  by_cases h : trim k = ""
  · refine .inl ⟨h, .invalidArgument "API key cannot be empty", fun c => ?_⟩
    rw [Config.setKey, if_pos (isBlankText_iff.mpr h)]
  · refine .inr ⟨h, fun c => ?_⟩
    rw [Config.setKey, if_neg (fun hb => h (isBlankText_iff.mp hb))]
    rfl

/-- A call is refused and changes nothing, whatever the configuration, or sets its field, whatever
the configuration. -/
def Settled (s : Setter) : Prop :=
  (¬ s.Fit ∧ ∃ e, ∀ c : Config, c.call s = (.error e, c)) ∨
    (s.Fit ∧ ∀ c : Config, c.call s = (.ok (), c.set s.field s.value))

/-- A key from the environment is refused if it is missing or no text, else it is set like any. -/
theorem keyFromEnvironment_settled (bytes : Option Bytes) :
    (keyFromEnvironment bytes).Settled := by
  cases hb : bytes.bind Utf8.decode? with
  | none =>
    refine .inl ⟨?_, _, fun c => by rw [Config.call, Config.setKeyFromEnvironment, hb]⟩
    rintro ⟨cs, hcs, -⟩
    rw [hb] at hcs
    cases hcs
  | some cs =>
    have happly (c : Config) :
        c.call (.keyFromEnvironment bytes) = c.setKey (String.ofList cs) := by
      simp only [Config.call, Config.setKeyFromEnvironment, hb]
    have hvalue : String.ofList cs = value (.keyFromEnvironment bytes) := by
      simp only [value, hb, Option.getD_some]
    rcases setKey_cases (String.ofList cs) with ⟨hk, e, he⟩ | ⟨hk, hset⟩
    · refine .inl ⟨?_, e, fun c => (happly c).trans (he c)⟩
      rintro ⟨cs', hcs, hk'⟩
      rw [hb] at hcs
      cases hcs
      exact hk' hk
    · refine .inr ⟨⟨cs, hb, hk⟩, fun c => (happly c).trans ((hset c).trans ?_)⟩
      exact congrArg (fun k => (Except.ok (), c.set .key k)) hvalue

/-- The host is looked at before the port. -/
theorem address_settled (host : String) (port : UInt16) : (address host port).Settled := by
  by_cases hh : trim host = ""
  · refine .inl ⟨fun hf => hf.1 hh, .invalidArgument "gateway host cannot be empty", fun c => ?_⟩
    rw [Config.call, Config.setAddress, if_pos (isBlankText_iff.mpr hh)]
  · have hb : ¬ isBlankText host = true := fun hb => hh (isBlankText_iff.mp hb)
    by_cases hp : port = 0
    · refine .inl ⟨fun hf => hf.2 hp, .invalidArgument "gateway port cannot be zero", fun c => ?_⟩
      rw [Config.call, Config.setAddress, if_neg hb, if_pos hp]
    · refine .inr ⟨⟨hh, hp⟩, fun c => ?_⟩
      rw [Config.call, Config.setAddress, if_neg hb, if_neg hp]
      rfl

theorem settled (s : Setter) : s.Settled := by
  cases s with
  | key k =>
    rcases setKey_cases k with ⟨hk, he⟩ | hset
    · exact .inl ⟨fun hf => hf hk, he⟩
    · exact .inr hset
  | keyFromEnvironment bytes => exact keyFromEnvironment_settled bytes
  | dataset code =>
    by_cases h : trim code = ""
    · refine .inl ⟨fun hf => hf h, .invalidArgument "dataset cannot be empty", fun c => ?_⟩
      rw [Config.call, Config.setDataset, if_pos (isBlankText_iff.mpr h)]
    · refine .inr ⟨h, fun c => ?_⟩
      rw [Config.call, Config.setDataset, if_neg (fun hb => h (isBlankText_iff.mp hb))]
      rfl
  | heartbeat seconds =>
    by_cases h : seconds = 0
    · exact .inl ⟨fun hf => hf h, _, fun c => by rw [Config.call, Config.setHeartbeat, if_pos h]⟩
    · exact .inr ⟨h, fun c => by rw [Config.call, Config.setHeartbeat, if_neg h]; rfl⟩
  | address host port => exact address_settled host port
  | bufferSize size =>
    by_cases h : size = 0
    · exact .inl ⟨fun hf => hf h, _, fun c => by rw [Config.call, Config.setBufferSize, if_pos h]⟩
    · exact .inr ⟨h, fun c => by rw [Config.call, Config.setBufferSize, if_neg h]; rfl⟩
  | shutdownTimeout timeout =>
    refine .inr ⟨trivial, fun c => ?_⟩
    rw [Config.call, Config.setShutdownTimeout, ← Duration.saturated_eq]
    rfl
  | knownDataset | sendTsOut | upgradePolicy => exact .inr ⟨trivial, fun _ => rfl⟩

end Setter

/-! ## What setters give -/

/-- What holds of the values that setters give to a field. -/
def Config.Field.Proper : (f : Field) → f.Value → Prop
  | .key, k => trim k ≠ ""
  | .dataset, code => code ≠ "" ∧ trim code = code
  | .heartbeat, seconds => ∃ n, seconds = some n ∧ 1 ≤ n
  | .gateway, g => ∃ host port, g = some ⟨host, port⟩ ∧ host ≠ "" ∧ trim host = host ∧ port ≠ 0
  | .bufferSize, size => size ≠ (0 : UInt64)
  | .sendTsOut, _ | .upgradePolicy, _ | .shutdownTimeout, _ => True

theorem Dataset.proper_of_known {code : String} (h : known code = true) :
    code ≠ "" ∧ trim code = code := by
  have hall : ∀ code ∈ codes, code ≠ "" ∧ trim code = code := by decide +kernel
  exact hall code (List.contains_iff_mem.mp h)

theorem Setter.Fit.proper {s : Setter} (h : s.Fit) : s.field.Proper s.value := by
  cases s with
  | key k => exact h
  | keyFromEnvironment bytes =>
    obtain ⟨cs, hb, hk⟩ := h
    have hvalue : String.ofList cs = value (.keyFromEnvironment bytes) := by
      simp only [value, hb, Option.getD_some]
    exact fun h => hk ((congrArg trim hvalue).trans h)
  | dataset code => exact ⟨h, trim_trim code⟩
  | knownDataset code known => exact Dataset.proper_of_known known
  | heartbeat seconds =>
    have hpos : seconds.toNat ≠ 0 := fun h0 => h (UInt32.toNat_inj.mp h0)
    exact ⟨seconds, rfl, UInt32.le_iff_toNat_le.mpr (Nat.one_le_iff_ne_zero.mpr hpos)⟩
  | address host port => exact ⟨trim host, port, rfl, h.1, trim_trim host, h.2⟩
  | bufferSize size => exact h
  | sendTsOut | upgradePolicy | shutdownTimeout => trivial

/-- The value that a call gives to a field, if it is the one the call is for. -/
def Setter.value? (f : Config.Field) (s : Setter) : Option f.Value :=
  if h : s.field = f then some (h ▸ s.value) else none

theorem Setter.value?_eq_some {f : Config.Field} {s : Setter} {v : f.Value}
    (h : s.value? f = some v) : ∃ hf : s.field = f, v = hf ▸ s.value := by
  unfold value? at h
  split at h
  · rename_i hf
    exact ⟨hf, (Option.some.inj h).symm⟩
  · cases h

namespace Config

variable {c : Config} {f : Field}

theorem get_set (c : Config) (s : Setter) (f : Field) :
    (c.set s.field s.value).get f = (s.value? f).getD (c.get f) := by
  unfold Setter.value?
  split
  · rename_i h
    subst h
    exact c.get_set_self _ _
  · rename_i h
    exact c.get_set_ne h _

/-! ## Calls -/

/-- The answer does not depend on the configuration. -/
theorem call_answer (s : Setter) (c c' : Config) : (c.call s).1 = (c'.call s).1 := by
  rcases s.settled with ⟨-, e, he⟩ | ⟨-, hset⟩
  · rw [he, he]
  · rw [hset, hset]

theorem call_ok_iff {s : Setter} : (c.call s).1 = .ok () ↔ s.Fit := by
  rcases s.settled with ⟨hn, e, he⟩ | ⟨hf, hset⟩
  · rw [he]
    exact iff_of_false (fun h => by cases h) hn
  · rw [hset]
    exact iff_of_true rfl hf

theorem call_error {s : Setter} {e : SessionError} (h : (c.call s).1 = .error e) :
    (c.call s).2 = c := by
  rcases s.settled with ⟨-, e', he⟩ | ⟨-, hset⟩
  · rw [he]
  · rw [hset] at h
    cases h

/-- Calls for different fields can be exchanged. -/
theorem call_comm (c : Config) {s t : Setter} (h : s.field ≠ t.field) :
    ((c.call s).2.call t).2 = ((c.call t).2.call s).2 := by
  rcases s.settled with ⟨-, e, he⟩ | ⟨-, hs⟩
  · rw [he, he]
  · rcases t.settled with ⟨-, e, he⟩ | ⟨-, ht⟩
    · rw [he, he]
    · rw [hs, hs, ht, ht]
      exact c.set_comm h _ _

/-! ## Runs -/

/-- A call with its answer. -/
abbrev Answered := Setter × Except SessionError Unit

def after (c : Config) (run : List Setter) : Config := run.foldl (fun c s => (c.call s).2) c

def log : Config → List Setter → List Answered
  | _, [] => []
  | c, s :: run => (s, (c.call s).1) :: (c.call s).2.log run

/-- The value that a call gave to a field, if it was for that field and succeeded. -/
def given (f : Field) (a : Answered) : Option f.Value :=
  match a.2 with
  | .ok () => a.1.value? f
  | .error _ => none

/-- The value that was given to a field last. -/
def latest (f : Field) (l : List Answered) : Option f.Value := (l.filterMap (given f)).getLast?

theorem latest_cons (f : Field) (a : Answered) (l : List Answered) :
    latest f (a :: l) = (latest f l).or (given f a) := by
  unfold latest
  cases hg : given f a with
  | none => rw [List.filterMap_cons_none hg, Option.or_none]
  | some v =>
    rw [List.filterMap_cons_some hg, List.getLast?_cons]
    cases (l.filterMap (given f)).getLast? <;> rfl

theorem get_call (c : Config) (s : Setter) (f : Field) :
    (c.call s).2.get f = (given f (s, (c.call s).1)).getD (c.get f) := by
  rcases s.settled with ⟨-, e, he⟩ | ⟨-, hset⟩
  · rw [he]
    rfl
  · rw [hset]
    exact c.get_set s f

/-- A field has the value that was given to it last. -/
theorem get_after (c : Config) (run : List Setter) (f : Field) :
    (c.after run).get f = (latest f (c.log run)).getD (c.get f) := by
  induction run generalizing c with
  | nil => rfl
  | cons s run ih =>
    have hrun : (c.after (s :: run)).get f = _ := ih (c.call s).2
    rw [hrun, log, latest_cons, get_call]
    cases latest f ((c.call s).2.log run) <;> rfl

theorem proper_given {s : Setter} {v : f.Value} (h : given f (s, (c.call s).1) = some v) :
    f.Proper v := by
  rcases s.settled with ⟨-, e, he⟩ | ⟨hf, hset⟩
  · rw [he] at h
    cases h
  · rw [hset] at h
    obtain ⟨rfl, rfl⟩ := Setter.value?_eq_some h
    exact hf.proper

theorem proper_latest {run : List Setter} {v : f.Value} (h : latest f (c.log run) = some v) :
    f.Proper v := by
  induction run generalizing c with
  | nil => cases h
  | cons s run ih =>
    rw [log, latest_cons, Option.or_eq_some_iff] at h
    rcases h with h | ⟨-, h⟩
    · exact ih h
    · exact proper_given h

/-- A field is as it was, or has a value that setters give. -/
theorem proper_after (c : Config) (run : List Setter) (f : Field) :
    (latest f (c.log run) = none ∧ (c.after run).get f = c.get f) ∨
      ((latest f (c.log run)).isSome = true ∧ f.Proper ((c.after run).get f)) := by
  rw [get_after]
  cases h : latest f (c.log run) with
  | none => exact .inl ⟨rfl, rfl⟩
  | some v => exact .inr ⟨rfl, proper_latest h⟩

/-- What holds of every configuration that setters have filled in. -/
structure Tidy (c : Config) : Prop where
  key : c.key = "" ∨ trim c.key ≠ ""
  dataset : c.dataset = "" ∨ c.dataset ≠ "" ∧ trim c.dataset = c.dataset
  heartbeat : c.heartbeat = none ∨ ∃ n, c.heartbeat = some n ∧ 1 ≤ n
  gateway : c.gatewayOverride = none ∨ ∃ host port, c.gatewayOverride = some ⟨host, port⟩ ∧
    host ≠ "" ∧ trim host = host ∧ port ≠ 0
  bufferSize : c.bufferSize ≠ 0

theorem Tidy.after (run : List Setter) : (({} : Config).after run).Tidy := by
  have hf (f : Field) : (({} : Config).after run).get f = ({} : Config).get f ∨
      f.Proper ((({} : Config).after run).get f) := by
    rcases proper_after {} run f with ⟨-, h⟩ | ⟨-, h⟩
    · exact .inl h
    · exact .inr h
  refine ⟨hf .key, hf .dataset, hf .heartbeat, hf .gateway, ?_⟩
  rcases hf .bufferSize with h | h
  · have hdefault : (({} : Config).after run).bufferSize = 65536 := h
    rw [hdefault]
    decide
  · exact h

/-! ## Opening a session -/

theorem validate_ok_iff : c.validate = .ok () ↔ trim c.key ≠ "" ∧ trim c.dataset ≠ "" := by
  unfold validate
  split
  · rename_i hk
    exact iff_of_false (fun h => by cases h) fun hn => hn.1 (isBlankText_iff.mp hk)
  · rename_i hk
    have hk' : trim c.key ≠ "" := fun h => hk (isBlankText_iff.mpr h)
    split
    · rename_i hd
      exact iff_of_false (fun h => by cases h) fun hn => hn.2 (isBlankText_iff.mp hd)
    · rename_i hd
      exact iff_of_true rfl ⟨hk', fun h => hd (isBlankText_iff.mpr h)⟩

/-- A filled-in configuration is complete if the key and the dataset were set. -/
theorem validate_after (run : List Setter) :
    (({} : Config).after run).validate = .ok () ↔
      (latest .key (({} : Config).log run)).isSome = true ∧
        (latest .dataset (({} : Config).log run)).isSome = true := by
  have hkey : trim (({} : Config).after run).key ≠ "" ↔
      (latest .key (({} : Config).log run)).isSome = true := by
    rcases proper_after {} run .key with ⟨hn, h⟩ | ⟨hs, h⟩
    · have hunset : (({} : Config).after run).key = "" := h
      rw [hunset, hn]
      exact iff_of_false (fun h => h (by decide)) (by decide)
    · exact iff_of_true h hs
  have hdataset : trim (({} : Config).after run).dataset ≠ "" ↔
      (latest .dataset (({} : Config).log run)).isSome = true := by
    rcases proper_after {} run .dataset with ⟨hn, h⟩ | ⟨hs, h⟩
    · have hunset : (({} : Config).after run).dataset = "" := h
      rw [hunset, hn]
      exact iff_of_false (fun h => h (by decide)) (by decide)
    · have hset : (({} : Config).after run).dataset ≠ "" ∧
          trim (({} : Config).after run).dataset = (({} : Config).after run).dataset := h
      rw [hset.2]
      exact iff_of_true hset.1 hs
  rw [validate_ok_iff, hkey, hdataset]

end Config

theorem Session.connect_ok_iff {κ : Type} {k k' : κ} {config : Config}
    {connect : κ → Config → Except EngineError Engine × κ} {s : Session} :
    Session.connect k config connect = (.ok s, k') ↔ config.validate = .ok () ∧
      ∃ engine, connect k config = (.ok engine, k') ∧ s = .new config engine := by
  constructor
  · intro h
    refine ⟨?_, Session.connect_ok h⟩
    unfold Session.connect at h
    cases hv : config.validate with
    | ok => rfl
    | error e => simp [hv] at h
  · rintro ⟨hv, engine, hc, rfl⟩
    simp only [Session.connect, hv, hc]

/-! ## The theorem -/

/-- After every run of calls of setters, whatever their arguments:

* Each field has the value that the last call for it that succeeded gave, or its default if there
  was none.
* A call succeeds just if its argument is fit, and one that fails changes nothing. Calls for
  different fields do the same in either order, and are answered the same.
* The configuration is tidy: the key is not blank, the dataset and the host of a gateway are trimmed
  and not empty, the interval and the port are not zero, where they were set; and the size of the
  buffer is not zero.
* Whatever opens the engines, a session is opened just if a key and a dataset have been set and an
  engine is opened for the configuration, and the session has this configuration. -/
theorem setters_fill_in (run : List Setter) :
    let new : Config := {}
    let c := new.after run
    let calls := new.log run
    (∀ f, c.get f = (Config.latest f calls).getD (new.get f)) ∧
    (∀ s, ((c.call s).1 = .ok () ↔ s.Fit) ∧ ∀ e, (c.call s).1 = .error e → (c.call s).2 = c) ∧
    (∀ s t, s.field ≠ t.field →
      ((c.call s).2.call t).2 = ((c.call t).2.call s).2 ∧
      ((c.call s).2.call t).1 = (c.call t).1 ∧ ((c.call t).2.call s).1 = (c.call s).1) ∧
    c.Tidy ∧
    ∀ (κ : Type) (connect : κ → Config → Except EngineError Engine × κ) (s : Session) (k k' : κ),
      (Session.connect k c connect = (.ok s, k') ↔
        ((Config.latest .key calls).isSome = true ∧ (Config.latest .dataset calls).isSome = true) ∧
          ∃ engine, connect k c = (.ok engine, k') ∧ s = .new c engine) ∧
      (Session.connect k c connect = (.ok s, k') → s.config = c) := by
  intro new c calls
  refine ⟨fun f => new.get_after run f, fun s => ⟨Config.call_ok_iff, fun e => Config.call_error⟩,
    fun s t h => ⟨c.call_comm h, Config.call_answer t _ _, Config.call_answer s _ _⟩,
    .after run, fun κ connect s k k' => ⟨?_, fun h => ?_⟩⟩
  · rw [Session.connect_ok_iff, Config.validate_after]
  · obtain ⟨engine, -, rfl⟩ := Session.connect_ok h
    rfl

end MarketFeed
