import SharedListener.Metrics.Series

/-!
# The metrics of a gateway

Six counters and a gauge, each a series of its own, and a flag that says whether
the gateway is draining.  `render` writes all of them in the text format that
scrapers of such metrics read, with the entries of each series in some `Arrangement`.
-/

namespace SharedListener

/-- Numbers that only grow, up to wrapping around. -/
abbrev Metrics.Counter := Metrics.Series UInt64

/-- Numbers that go up and down. -/
abbrev Metrics.Gauge := Metrics.Series Int64

/-- What a gateway counts. -/
structure Metrics where
  /-- Connections taken from the listener. -/
  accepted : Metrics.Counter := ∅
  /-- Connections that have not ended. -/
  active : Metrics.Gauge := ∅
  /-- Connections by the protocol they turned out to speak. -/
  classifications : Metrics.Counter := ∅
  /-- Upgrade requests that were turned down, by reason. -/
  rejections : Metrics.Counter := ∅
  /-- Bytes handed on, by protocol. -/
  forwarded : Metrics.Counter := ∅
  /-- Connections ended by undecodable frames, by fault code. -/
  decodeErrors : Metrics.Counter := ∅
  /-- Connections ended by a close frame. -/
  closeFrames : Metrics.Counter := ∅
  /-- Whether the gateway is about to stop. -/
  draining : Bool := false

namespace Metrics

/-- Marks the gateway as draining. -/
def drain (metrics : Metrics) : Metrics :=
  { metrics with draining := true }

/-- The lines of a counter. -/
def counterBlock (arrangement : Arrangement) (name : String) (counter : Counter) : List String :=
  counter.block arrangement name "counter" fun number => toString number.toNat

/-- The lines of a gauge. -/
def gaugeBlock (arrangement : Arrangement) (name : String) (gauge : Gauge) : List String :=
  gauge.block arrangement name "gauge" fun number => toString number.toInt

/-- The blocks of all series. -/
def seriesLines (metrics : Metrics) (arrangement : Arrangement) : List String :=
  counterBlock arrangement "wsmux_connections_accepted_total" metrics.accepted ++
  gaugeBlock arrangement "wsmux_connections_active" metrics.active ++
  counterBlock arrangement "wsmux_classifications_total" metrics.classifications ++
  counterBlock arrangement "wsmux_handshake_rejections_total" metrics.rejections ++
  counterBlock arrangement "wsmux_forwarded_bytes_total" metrics.forwarded ++
  counterBlock arrangement "wsmux_decode_errors_total" metrics.decodeErrors ++
  counterBlock arrangement "wsmux_close_frames_total" metrics.closeFrames

/-- The flag, and then the `extra` numbers in the order given. -/
def closingLines (metrics : Metrics) (extra : List (String × Nat)) : List String :=
  ["# TYPE wsmux_draining gauge",
    "wsmux_draining " ++ (if metrics.draining then "1" else "0")] ++
  extra.map fun line => line.1 ++ " " ++ toString line.2

/-- The text of all metrics, with `extra` numbers behind them. -/
def render (metrics : Metrics) (arrangement : Arrangement) (extra : List (String × Nat)) :
    String :=
  String.join ((metrics.seriesLines arrangement ++ metrics.closingLines extra).map (· ++ "\n"))

end Metrics

end SharedListener
