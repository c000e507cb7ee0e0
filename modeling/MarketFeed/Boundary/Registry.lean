import MarketFeed.Config.Basic
import MarketFeed.Named

set_option autoImplicit false

/-!
# Handles

Every handle that was given out and not freed is registered under its address, so a pointer that is
stale, foreign or of the wrong kind is told from a live handle before anything is done with it. Where
a new handle is put is up to an allocator, which may use an address again once it was freed.
-/

namespace MarketFeed.Boundary

/-- A pointer that should be a handle: null, or an address. -/
abbrev Pointer := Option Nat

/-- What a builder holds: its configuration, until a session is built from it. -/
inductive BuilderSlot where
  | opened (config : Config)
  | consumed
  deriving DecidableEq, Inhabited

inductive Handle where
  | builder (slot : BuilderSlot)
  | session (number : Nat)
  deriving DecidableEq, Inhabited

/-- Where handles are put: the address of the next one, given the addresses in use and how many were
given out before. It is never null and never one that is in use. -/
structure Allocator where
  address : List Nat → Nat → Nat
  ne_zero : ∀ used issued, address used issued ≠ 0
  fresh : ∀ used issued, address used issued ∉ used

theorem le_foldl_max (l : List Nat) (n : Nat) : n ≤ l.foldl max n ∧ ∀ x ∈ l, x ≤ l.foldl max n := by
  induction l generalizing n with
  | nil => simp
  | cons y l ih =>
    obtain ⟨hn, hl⟩ := ih (max n y)
    refine ⟨Nat.le_trans (Nat.le_max_left n y) hn, fun x hx => ?_⟩
    rcases List.mem_cons.mp hx with rfl | hx
    · exact Nat.le_trans (Nat.le_max_right n x) hn
    · exact hl x hx

/-- The addresses from one on, none of them twice. -/
def Allocator.ascending : Allocator where
  address used issued := used.foldl max issued + 1
  ne_zero _ _ := Nat.succ_ne_zero _
  fresh used issued h := Nat.not_succ_le_self _ ((le_foldl_max used issued).2 _ h)

instance : Inhabited Allocator := ⟨.ascending⟩

structure Registry where
  allocator : Allocator := .ascending
  live : List (Nat × Handle) := []
  /-- How many handles were given out. -/
  issued : Nat := 0
  deriving Inhabited

namespace Registry

def empty : Registry := {}

/-- The address of the next handle. -/
def next (r : Registry) : Nat := r.allocator.address (r.live.map (·.1)) r.issued

def add (r : Registry) (h : Handle) : Nat × Registry :=
  (r.next, { r with live := (r.next, h) :: r.live, issued := r.issued + 1 })

/-- The live builder at a pointer, with its address. -/
def builder (r : Registry) (p : Pointer) : Except SessionError (Nat × BuilderSlot) :=
  match p with
  | none => .error (.nullArgument "builder")
  | some address =>
    match r.live.lookup address with
    | some (.builder slot) => .ok (address, slot)
    | _ => .error (.invalidHandle "builder")

/-- The number of the live session at a pointer. -/
def session (r : Registry) (p : Pointer) : Except SessionError Nat :=
  match p with
  | none => .error (.nullArgument "session")
  | some address =>
    match r.live.lookup address with
    | some (.session number) => .ok number
    | _ => .error (.invalidHandle "session")

theorem session_add (r : Registry) (number : Nat) :
    (r.add (.session number)).2.session (some r.next) = .ok number := by
  simp [add, session]

def remove (r : Registry) (address : Nat) : Registry :=
  { r with live := r.live.filter (·.1 != address) }

theorem session_remove (r : Registry) (address : Nat) :
    (r.remove address).session (some address) = .error (.invalidHandle "session") := by
  simp only [session, remove, lookup_filter_self]

def setBuilder (r : Registry) (address : Nat) (slot : BuilderSlot) : Registry :=
  { r with live := replaceAt address (.builder slot) r.live }

end Registry

end MarketFeed.Boundary
