import RdmaLink.Command.Run
import RdmaLink.Endpoint.Isolated

/-!
# Runs on an isolated host

The surroundings of a program on a host where nobody can be dialed and nobody comes.
-/

namespace RdmaLink.Command

/-- Where the first region is mapped. -/
def firstBase : UInt64 := 0x7f0000000000

/-- A tick in which nothing happens, or the command is interrupted. -/
def idleTick (interrupted : Bool) : Tick :=
  ⟨interrupted, ⟨[], .ofPeers fun _ => false⟩, IsolatedHost.nobody⟩

/-- The surroundings of the only process on an isolated host. -/
def isolated (content : String → Except IoError String) (board : Board)
    (ticks : List Tick) : Surroundings :=
  { content := content
    registry := DeviceRegistry.builtin
    space := ⟨"/dev/shm", BackingDirectory.empty, 1, 0⟩
    lot := ⟨firstBase, BackingLimits.ordinary⟩
    muxFault := none
    board := board
    binding := IsolatedHost.binding 0
    dialing := IsolatedHost.dialing
    ticks := ticks
    faults := Publication.noFaults
    elapsed := 0 }

end RdmaLink.Command
