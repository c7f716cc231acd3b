import Graft.Event
import Graft.Subst.Instantiate
import Graft.Traversal.Accesses

/-!
# Weaving

An *aspect* says where to instrument and with what: its pattern selects implementations by their
signatures, its guard selects commands, and its companion commands are instantiated with what the
guard captured there.
-/

namespace Graft

/-- What to look for and what to insert where it is found. -/
structure Aspect where
  pattern : Procedure
  guard : Expr
  companion : List Command
  deriving DecidableEq, Inhabited

/-- What an aspect finds at one command. -/
structure Site where
  command : Command
  /-- What the guard captured there, or why it does not match. -/
  outcome : Except Mismatch Subst

def Site.reads (site : Site) : List Access := site.command.accesses

namespace Aspect

def site (options : Options) (aspect : Aspect) (command : Command) : Site :=
  ⟨command, aspect.guard.matchWithin options command⟩

def inserted (aspect : Aspect) (σ : Subst) : Except Fault (List Command) :=
  σ.instantiateCommands aspect.companion

def weave (options : Options) (contained : Containment) (aspect : Aspect)
    (implementation : Implementation) : Except Rejection (Waivers × List Site) := do
  let waivers ← aspect.pattern.matchAgainst options contained implementation
  return (waivers, implementation.commands.map (aspect.site options))

/-- The events of looking at one command and instantiating the companion for it. -/
def siteEvents (options : Options) (aspect : Aspect) (command : Command) : List Event :=
  aspect.guard.matchWithinEvents options command ++
    match aspect.guard.matchWithin options command with
    | .ok σ => Fault.events (aspect.inserted σ)
    | .error _ => []

def weaveEvents (options : Options) (contained : Containment) (aspect : Aspect)
    (implementation : Implementation) : List Event :=
  aspect.pattern.signature.matchEvents options contained implementation.signature ++
    match aspect.weave options contained implementation with
    | .ok (_, sites) => sites.flatMap fun site => aspect.siteEvents options site.command
    | .error _ => []

end Aspect

end Graft
