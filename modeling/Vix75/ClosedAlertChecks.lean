import Vix75.NotifyChecks

/-! The sign of the result in the alert about a closed trade, from the entry that the reconciler
publishes to the text. -/

namespace Vix75

theorem TextFormats.payload_streamFields {formats : TextFormats} {uuid name : String}
    {payload : List (String × Json)} {correlationId : Option String} {fields : Fields}
    (written : formats.streamFields uuid payload correlationId = some fields)
    (other : name ≠ "correlation_id") :
    fields.get? name = (payload.lookup name).bind formats.str := by
  simp only [streamFields, Option.bind_eq_bind, Option.bind_eq_some_iff, Option.some.injEq]
    at written
  obtain ⟨texts, written, rfl⟩ := written
  rw [Fields.get?_set, if_neg other, Fields.get?, lookup_of_texts (mapM_eq_some_iff.mp written)]

namespace Notifying

def Headed (text arrow printed : String) : Prop :=
  ∃ rest, text = "🔵 <b>TRADE CLOSED</b> " ++ (arrow ++ ("\nPnL: " ++ (printed ++ ("\n" ++ rest))))

structure ShowsResult (formats : TextFormats) (profit : ℚ) (text : String) : Prop where
  arrow : (∃ printed, Headed text "📈" printed) ↔ 0 ≤ profit
  printed : ∃ arrow ∈ ["📈", "📉"], ∃ printed,
    formats.str (.float (.finite profit)) = some printed ∧ Headed text arrow printed

theorem not_headed_up {text printed : String} (down : Headed text "📉" printed) :
    ¬∃ other, Headed text "📈" other := by
  rintro ⟨other, rest, up⟩
  obtain ⟨tail, rfl⟩ := down
  have arrows := (String.append_right_inj _).mp up
  have chars := congrArg String.toList arrows
  simp [String.toList_append] at chars

/-- The texts of a stream entry are no numbers, so the arrow always points down. -/
theorem formatClosed_headed (consumer : NotifyConsumer) {decoded : Fields} {pnl : String}
    (present : decoded.get? "pnl" = some pnl) :
    ∃ text, consumer.formatClosed (payloadOf decoded) = .ok text ∧ Headed text "📉" pnl := by
  simp only [NotifyConsumer.formatClosed, payloadOf_get, payloadOf_lookup, present]
  refine ⟨_, rfl, ?_⟩
  simp only [Headed, String.append_assoc]
  exact ⟨_, rfl⟩

namespace Sample

open TextFormats.Sample

noncomputable def lossFormats : TextFormats :=
  { formats with
    floatText := fun value =>
      if value = .finite (-41 / 2) then some "-20.5"
      else if value = .finite (199 / 2) then some "99.5"
      else none }

def loss : ClosedEntry := { closing with pnl := -41 / 2 }

def lossFields : Fields :=
  [("signal_id", "5f0c"), ("idempotency_key", "5f0c"), ("symbol", "Volatility 75 Index"),
    ("ticket", "30"), ("pnl", "-20.5"), ("exit_price", "99.5"), ("correlation_id", "c2")]

theorem loss_written :
    lossFormats.streamFields "c2" loss.payload none = some lossFields := by
  decide +kernel

def closingFields : Fields :=
  [("signal_id", "5f0c"), ("idempotency_key", "5f0c"), ("symbol", "Volatility 75 Index"),
    ("ticket", "30"), ("pnl", "101.0"), ("exit_price", "99.5"), ("correlation_id", "c2")]

theorem closing_written :
    formats.streamFields "c2" closing.payload none = some closingFields := by
  decide +kernel

def bytesOf (fields : Fields) : List (Raw × Raw) :=
  fields.map fun field => (.bytes field.1, .bytes field.2)

end Sample

/-- The printed result is right, and the arrow only where the trade lost. -/
theorem closed_alert_sign_iff (consumer : NotifyConsumer) (formats : TextFormats) (uuid : String)
    (closed : ClosedEntry) (correlationId : Option String) (fields : Fields)
    (written : formats.streamFields uuid closed.payload correlationId = some fields)
    (raw : List (Raw × Raw)) (read : decode raw = fields) :
    (∃ text, consumer.formatClosed (payloadOf (decode raw)) = .ok text ∧
      ShowsResult formats closed.pnl text) ↔ closed.pnl < 0 := by
  have sent : fields.get? "pnl" = formats.str (.float (.finite closed.pnl)) :=
    TextFormats.payload_streamFields written (by decide)
  have held : closed.payload.lookup "pnl" = some (.float (.finite closed.pnl)) := rfl
  have stringified : ∃ pnl, formats.str (.float (.finite closed.pnl)) = some pnl :=
    TextFormats.text_of_streamFields written held
  obtain ⟨pnl, printed⟩ := stringified
  rw [read]
  obtain ⟨text, built, headed⟩ := formatClosed_headed consumer (sent.trans printed)
  have down := not_headed_up headed
  constructor
  · rintro ⟨other, same, shows⟩
    obtain rfl := Except.ok.inj (built.symm.trans same)
    by_contra gained
    exact down (shows.arrow.mpr (not_lt.mp gained))
  · intro lost
    refine ⟨text, built, ?_, "📉", by simp, pnl, printed, headed⟩
    exact ⟨fun up => absurd up down, fun gained => absurd lost (not_lt.mpr gained)⟩

theorem closed_alert_sign_loss :
    ∃ text, Sample.consumer.formatClosed (payloadOf (decode (Sample.bytesOf Sample.lossFields))) =
      .ok text ∧ ShowsResult Sample.lossFormats Sample.loss.pnl text :=
  (closed_alert_sign_iff Sample.consumer Sample.lossFormats "c2" Sample.loss none Sample.lossFields
    Sample.loss_written (Sample.bytesOf Sample.lossFields) rfl).mpr (by decide +kernel)

/-- A gain of 101.0 is announced with the arrow that points down. -/
theorem closed_alert_gain_down :
    TextFormats.Sample.formats.streamFields "c2" Sample.closing.payload none =
        some Sample.closingFields ∧
      ¬∃ text, Sample.consumer.formatClosed
          (payloadOf (decode (Sample.bytesOf Sample.closingFields))) = .ok text ∧
        ShowsResult TextFormats.Sample.formats Sample.closing.pnl text := by
  refine ⟨Sample.closing_written, ?_⟩
  rintro ⟨text, built, shows⟩
  have present : Fields.get? (decode (Sample.bytesOf Sample.closingFields)) "pnl" =
      some "101.0" := rfl
  obtain ⟨other, same, headed⟩ := formatClosed_headed Sample.consumer present
  obtain rfl := Except.ok.inj (built.symm.trans same)
  have gained : 0 ≤ Sample.closing.pnl := by decide +kernel
  exact not_headed_up headed (shows.arrow.mpr gained)

end Notifying

end Vix75
