import Vix75.FeatureStore

/-! The features command: one pass over the whole history of a key. -/

namespace Vix75

open PyMath

/-- The columns that the command's conflict clause takes over from the new row. -/
def Snapshot.refresh {F : Type} (old row : Snapshot F) : Snapshot F :=
  { old with
    close := row.close
    atr := row.atr
    rsi := row.rsi
    ema50 := row.ema50
    ema200 := row.ema200 }

namespace FeatureStore

variable {F : Type} [Add F] [Sub F] [Mul F] [Div F] [LT F] [LE F] [DecidableLT F] [DecidableLE F]
variable [DecidableEq F] [PyMath F]

/-- The rows of the payload: those of the bars behind the warm-up, all with the zones and pivots
of the whole history. -/
def payload (numerics : Numerics F) (bars : List (Bar F)) (activeZones : List (Zone F))
    (symbol timeframe : String) : List (Snapshot F) :=
  let frame := buildFrame numerics bars
  let pivots := latestPivots numerics (bars.map Bar.high) (bars.map Bar.low) 5
  (bars.zipIdx.drop (warmupIndex + 1)).map fun entry =>
    frame.row pivots activeZones symbol timeframe entry.1 fun series => series[entry.2]?.join

def cmdFeatures (numerics : Numerics F) (mint : ℕ → String) (symbol timeframe : String)
    (store : FeatureStore F) : Except PyError (ℕ × FeatureStore F) :=
  let bars := store.history symbol timeframe
  if bars.length ≤ warmupIndex + 1 then .ok (1, store)
  else do
    let zones ← (zoneEngineConfig : ZoneEngineConfig F).buildZones mint bars
    let activeZones := zones.filter fun zone => zone.state ≠ .broken
    let rows := payload numerics bars activeZones symbol timeframe
    .ok (0, { store with
      features := store.features.upsertAll Snapshot.refresh (fun _ _ => rfl) rows })

end FeatureStore

end Vix75
