/-!
# Keep-alive options

What the caller of a TCP connect asks of keep-alive probing. The record belongs to the caller;
creating a socket only reads it.

- `KeepAliveOptions`: a switch and three timers;
- `systemDefault`, `probing`: the two usual records;
- `isEnabled`: whether the record asks for anything at all.

The record is `SocketAsyncOptions` of SPEC_FULL, sections 3 and 10.3, and the two usual ones are its
`system_default` and `with_keep_alive`.
-/

namespace NonblockingSocket

/-- Keep-alive options of a TCP socket. A negative switch leaves the settings of the system
untouched; any other value turns probing on and applies the three timers. -/
structure KeepAliveOptions where
  /-- Negative for the system's own settings, else enabled. -/
  switch : Int32
  /-- Seconds without traffic before the first probe. -/
  idle : UInt32
  /-- Seconds between two probes. -/
  interval : UInt32
  /-- Unanswered probes after which the connection is dropped. -/
  count : UInt32
  deriving DecidableEq, Repr

namespace KeepAliveOptions

/-- The value of the switch that stands for the settings of the system. -/
def systemDefaultSwitch : Int32 := -1

/-- Options that leave everything to the system. -/
def systemDefault : KeepAliveOptions := ⟨systemDefaultSwitch, 0, 0, 0⟩

instance : Inhabited KeepAliveOptions := ⟨systemDefault⟩

/-- Options that turn probing on with the given timers. -/
def probing (idle interval count : UInt32) : KeepAliveOptions := ⟨1, idle, interval, count⟩

/-- Whether keep-alive is to be configured. -/
def isEnabled (options : KeepAliveOptions) : Bool := decide (0 ≤ options.switch)

/-- Whether the switch holds exactly the value that stands for the settings of the system. -/
def isSystemDefault (options : KeepAliveOptions) : Bool := options.switch == systemDefaultSwitch

/-- The record as text, field by field. -/
def debug (options : KeepAliveOptions) : String :=
  s!"SocketAsyncOptions \x7b keep_alive: {options.switch.toInt}, keep_idle: {options.idle.toNat}"
    ++ s!", keep_interval: {options.interval.toNat}, keep_count: {options.count.toNat} \x7d"

end KeepAliveOptions

end NonblockingSocket
