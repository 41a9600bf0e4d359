import CamelSpell.Log.Record

/-!
# Loggers

Loggers form a family that shares one level, one format and one destination.  They are numbered in
the order in which they were made, the first one by itself and each of the others from one that was
there.  Every logger holds an outlet and a scope of its own, but goes by the outlet of the first
one: a logger that was made from another one refers to the same logger as that one does, and its own
outlet is never asked for.
-/

namespace CamelSpell
namespace Log

/-- Where a logger writes: to the error stream of the command line that is being carried out, or to
one from before.  Those are numbered backwards, and the first of them was that of the process. -/
inductive Destination
  | own
  | earlier (number : Nat)
deriving DecidableEq, Repr

namespace Destination

def standardError : Destination := earlier 0

def left : Destination -> Destination
  | own => earlier 0
  | earlier number => earlier (number + 1)

end Destination

structure Options where
  level : Option Level
  format : Option Format
  scope : Option String
  destination : Option Destination

namespace Options

def nothing : Options := ⟨none, none, none, none⟩

end Options

namespace Settings

def update (s : Settings) (o : Options) : Settings :=
  ⟨o.level.getD s.level, o.format.getD s.format⟩

end Settings

structure Outlet where
  settings : Settings
  destination : Destination
deriving DecidableEq, Repr

namespace Outlet

def standard : Outlet := ⟨Settings.standard, Destination.standardError⟩

def update (u : Outlet) (o : Options) : Outlet :=
  ⟨u.settings.update o, o.destination.getD u.destination⟩

end Outlet

structure Member where
  outlet : Outlet
  scope : Option String
  parent : Option Nat
deriving DecidableEq, Repr

namespace Member

def update (o : Options) (m : Member) : Member :=
  { m with outlet := m.outlet.update o }

def rename (o : Options) (m : Member) : Member :=
  { m with scope := o.scope.or m.scope }

end Member

structure Family where
  members : List Member
deriving DecidableEq, Repr

namespace Family

def start (o : Options) : Family :=
  ⟨[⟨Outlet.standard.update o, o.scope, none⟩]⟩

def scopes (f : Family) : List (Option String) :=
  f.members.map Member.scope

def parents (f : Family) : List (Option Nat) :=
  f.members.map Member.parent

def outlets (f : Family) : List Outlet :=
  f.members.map Member.outlet

def scope (f : Family) (logger : Nat) : Option String :=
  (f.scopes[logger]?).join

def root (f : Family) (logger : Nat) : Nat :=
  ((f.parents[logger]?).join).getD logger

def outlet (f : Family) (logger : Nat) : Outlet :=
  (f.outlets[f.root logger]?).getD Outlet.standard

def settings (f : Family) (logger : Nat := 0) : Settings :=
  (f.outlet logger).settings

def destination (f : Family) (logger : Nat) : Destination :=
  (f.outlet logger).destination

def child (f : Family) (logger : Nat) (scope : String) : Family :=
  ⟨f.members ++
    [⟨Outlet.standard, some (qualify (f.scope logger) scope), some (f.root logger)⟩]⟩

/-- Configures a logger: the scope is its own, and all else is set where it looks for it. -/
def configure (f : Family) (logger : Nat) (o : Options) : Family :=
  ⟨(f.members.modify (f.root logger) (Member.update o)).modify logger (Member.rename o)⟩

def isEnabled (f : Family) (s : Severity) (logger : Nat := 0) : Bool :=
  (f.settings logger).level.admits s

def log (f : Family) (logger : Nat) (s : Severity) (message : String) (fields : Fields)
    (time : String) : String :=
  (f.settings logger).render time ⟨s, f.scope logger, message, fields⟩

def write (f : Family) (logger : Nat) (s : Severity) (message : String) (fields : Fields)
    (time : String) : Option (Destination × String) :=
  if f.isEnabled s logger then some (f.destination logger, f.log logger s message fields time)
  else none

end Family

/-!
## The logger of a program

Each command line has an error stream of its own, to which it points the logger of the program
before anything is logged.  The loggers that log are made from that one with the scopes of their
records.
-/

structure Logger where
  settings : Settings
  scope : Option String
  destination : Destination
deriving DecidableEq, Repr

namespace Logger

instance : Coe Settings Logger := ⟨fun s => ⟨s, none, Destination.standardError⟩⟩

def configure (l : Logger) (o : Options) : Logger :=
  ⟨l.settings.update o, o.scope.or l.scope, o.destination.getD l.destination⟩

def left (l : Logger) : Logger := { l with destination := l.destination.left }

def qualifyRecord (outer : Option String) (r : Record) : Record :=
  { r with scope := match r.scope with
      | none => outer
      | some inner => some (qualify outer inner) }

def written (l : Logger) (time : String) (records : List Record) : String :=
  match l.destination with
  | .own => l.settings.renderAll time (records.map (qualifyRecord l.scope))
  | .earlier _ => ""

end Logger
end Log
end CamelSpell
