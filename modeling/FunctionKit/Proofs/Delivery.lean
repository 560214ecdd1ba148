import FunctionKit.Logging.Delivery

/-!
# What a delivery writes

A delivery touches the journal and nothing else. Each outlet takes the lines of its handlers one
after the other, as far as its stream takes bytes at all.
-/

namespace FunctionKit.Logging.State

set_option autoImplicit false

/-! ## What stays -/

section Same

variable {before after : State} (registries : after.registries = before.registries)
  (formatters : after.formatters = before.formatters)

include registries

theorem registry_of_same (id : Nat) : after.registry id = before.registry id := by
  unfold State.registry
  rw [registries]

include formatters

theorem bound_keys_of_same (formatter : Formatter) :
    after.boundKeys formatter = before.boundKeys formatter := by
  cases formatter with
  | plain => rfl
  | standalone id => simp only [boundKeys, formatters]
  | service id name => simp only [boundKeys, registry_of_same registries id]

/-- Registries and formatters are all that a line shows besides its record. -/
theorem line_of_same (formatter : Option Formatter) (record : Record) :
    after.line formatter record = before.line formatter record := by
  unfold State.line
  split
  · rfl
  · rfl
  · rw [bound_keys_of_same registries formatters]

end Same

/-- Nothing but the journal has changed. -/
structure OnlyWrites (before after : State) : Prop where
  registries : after.registries = before.registries
  formatters : after.formatters = before.formatters
  streams : after.streams = before.streams
  coldStart : after.coldStart = before.coldStart

namespace OnlyWrites

variable {first second third : State}

theorem refl (state : State) : OnlyWrites state state :=
  ⟨rfl, rfl, rfl, rfl⟩

theorem trans (left : OnlyWrites first second) (right : OnlyWrites second third) :
    OnlyWrites first third :=
  ⟨right.registries.trans left.registries, right.formatters.trans left.formatters,
    right.streams.trans left.streams, right.coldStart.trans left.coldStart⟩

theorem registry (writes : OnlyWrites first second) (id : Nat) :
    second.registry id = first.registry id :=
  registry_of_same writes.registries id

theorem line (writes : OnlyWrites first second) (formatter : Option Formatter)
    (record : Record) : second.line formatter record = first.line formatter record :=
  line_of_same writes.registries writes.formatters formatter record

theorem stream? (writes : OnlyWrites first second) (outlet : Outlet) :
    second.stream? outlet = first.stream? outlet := by
  cases outlet with
  | stream id => simp only [State.stream?, writes.streams]
  | standardOutput => rfl

end OnlyWrites

theorem offer_only_writes (state : State) (outlet : Outlet) (bytes : List UInt8) :
    OnlyWrites state (state.offer outlet bytes).1 := by
  unfold offer
  split <;> exact ⟨rfl, rfl, rfl, rfl⟩

theorem write_line_only_writes (state : State) (outlet : Outlet) (line : String) :
    OnlyWrites state (state.writeLine outlet line).1 := by
  unfold writeLine
  have first := state.offer_only_writes outlet (Text.utf8Bytes line)
  split
  · rename_i after fault offered
    rw [offered] at first
    exact first
  · rename_i after offered
    rw [offered] at first
    have second := after.offer_only_writes outlet (Text.utf8Bytes "\n")
    split
    · rename_i last fault offeredBreak
      rw [offeredBreak] at second
      exact first.trans second
    · rename_i last offeredBreak
      rw [offeredBreak] at second
      exact first.trans second

theorem report_only_writes (state : State) (occasion : Occasion) (diagnostic : Diagnostic) :
    OnlyWrites state (state.report occasion diagnostic) :=
  ⟨rfl, rfl, rfl, rfl⟩

theorem handle_only_writes (occasion : Occasion) (record : Record) (state : State)
    (handler : Handler) : OnlyWrites state (handle occasion record state handler) := by
  unfold handle
  split
  · exact .refl state
  · split
    · exact .refl state
    · rename_i outlet _
      have written :=
        state.write_line_only_writes outlet (state.line handler.formatter record)
      split
      · rename_i after offered
        rw [offered] at written
        exact written
      · rename_i after fault offered
        rw [offered] at written
        exact written.trans (report_only_writes _ _ _)

theorem handle_all_only_writes (occasion : Occasion) (record : Record)
    (handlers : List Handler) (state : State) :
    OnlyWrites state (handlers.foldl (handle occasion record) state) := by
  induction handlers generalizing state with
  | nil => exact .refl state
  | cons handler rest ih =>
      exact (handle_only_writes occasion record state handler).trans (ih _)

theorem deliver_only_writes (state : State) (occasion : Occasion) (id : Nat) (name : String)
    (record : Record) : OnlyWrites state (state.deliver occasion id name record) := by
  unfold deliver
  dsimp only
  split
  · exact handle_all_only_writes occasion record _ state
  · exact .refl state

/-! ## What an outlet takes -/

/-- The part of some bytes that an outlet still takes. -/
def accepted (state : State) (outlet : Outlet) (bytes : List UInt8) : List UInt8 :=
  match state.stream? outlet with
  | some (.limited limit _) => bytes.take (limit - (state.contents outlet).length)
  | _ => bytes

/-- What a handler sends to an outlet for a record: the line and a line break, if the record passes
the handler's level and the outlet is the handler's. -/
def sent (state : State) (record : Record) (outlet : Outlet) (handler : Handler) :
    List UInt8 :=
  if handler.level.value ≤ record.level.value ∧ handler.outlet = some outlet then
    Text.utf8Bytes (state.line handler.formatter record ++ "\n")
  else []

theorem accepted_nil (state : State) (outlet : Outlet) : state.accepted outlet [] = [] := by
  unfold accepted
  split <;> simp

theorem accepted_of_limited {state : State} {outlet : Outlet} {limit : Nat} {fault : String}
    (stream : state.stream? outlet = some (.limited limit fault)) (bytes : List UInt8) :
    state.accepted outlet bytes = bytes.take (limit - (state.contents outlet).length) := by
  simp only [accepted, stream]

/-- Taking bytes in two goes is taking them in one. -/
theorem accepted_append {before after : State} {outlet : Outlet} {early : List UInt8}
    (sameStream : after.stream? outlet = before.stream? outlet)
    (took : after.contents outlet = before.contents outlet ++ before.accepted outlet early)
    (late : List UInt8) :
    before.accepted outlet (early ++ late) =
      before.accepted outlet early ++ after.accepted outlet late := by
  unfold accepted at took ⊢
  rw [sameStream]
  split
  · rename_i limit fault stream
    rw [stream] at took
    simp only at took
    -- the early bytes use up their share of the limit
    rw [List.take_append, took, List.length_append, List.length_take]
    congr 2
    omega
  · rfl

theorem contents_offer (state : State) (target outlet : Outlet) (bytes : List UInt8) :
    (state.offer target bytes).1.contents outlet =
      state.contents outlet ++ if target = outlet then state.accepted outlet bytes else [] := by
  by_cases same : target = outlet
  · subst same
    unfold offer accepted
    split <;> simp_all [contents_emit, Emission.bytesTo]
  · unfold offer
    split <;> simp [contents_emit, Emission.bytesTo, same]

/-- After a fault the outlet takes nothing more. -/
theorem accepted_of_fault {state : State} {outlet : Outlet} {bytes : List UInt8} {fault : String}
    (faulted : (state.offer outlet bytes).2 = some fault) (more : List UInt8) :
    state.accepted outlet (bytes ++ more) = state.accepted outlet bytes := by
  unfold offer at faulted
  split at faulted
  · rename_i limit held stream
    have full : limit - (state.contents outlet).length < bytes.length := by
      by_cases room : limit - (state.contents outlet).length < bytes.length
      · exact room
      · simp [room] at faulted
    rw [accepted_of_limited stream, accepted_of_limited stream]
    exact List.take_append_of_le_length (Nat.le_of_lt full)
  · cases faulted

theorem utf8_bytes_append (first second : String) :
    Text.utf8Bytes (first ++ second) = Text.utf8Bytes first ++ Text.utf8Bytes second := by
  simp [Text.utf8Bytes, String.toUTF8]

theorem contents_write_line (state : State) (target outlet : Outlet) (line : String) :
    (state.writeLine target line).1.contents outlet =
      state.contents outlet ++
        if target = outlet then state.accepted outlet (Text.utf8Bytes (line ++ "\n"))
        else [] := by
  have first := state.contents_offer target outlet (Text.utf8Bytes line)
  have firstWrites := state.offer_only_writes target (Text.utf8Bytes line)
  unfold writeLine
  split
  · rename_i after fault offered
    rw [offered] at first
    rw [first]
    by_cases same : target = outlet
    · subst same
      rw [if_pos rfl, if_pos rfl, utf8_bytes_append,
        accepted_of_fault (show (state.offer target (Text.utf8Bytes line)).2 = some fault by
          rw [offered])]
    · rw [if_neg same, if_neg same]
  · rename_i after offered
    rw [offered] at first firstWrites
    have second := after.contents_offer target outlet (Text.utf8Bytes "\n")
    have whole : (after.offer target (Text.utf8Bytes "\n")).1.contents outlet =
        state.contents outlet ++
          if target = outlet then state.accepted outlet (Text.utf8Bytes (line ++ "\n"))
          else [] := by
      rw [second, first]
      by_cases same : target = outlet
      · subst same
        simp only [if_true] at first ⊢
        rw [utf8_bytes_append, accepted_append (firstWrites.stream? target) first,
          List.append_assoc]
      · simp [same]
    split
    · rename_i last fault offeredBreak
      rw [offeredBreak] at whole
      exact whole
    · rename_i last offeredBreak
      rw [offeredBreak] at whole
      exact whole

theorem contents_report (state : State) (occasion : Occasion) (diagnostic : Diagnostic)
    (outlet : Outlet) :
    (state.report occasion diagnostic).contents outlet = state.contents outlet := by
  rw [report, contents_emit]
  exact List.append_nil _

theorem contents_handle (occasion : Occasion) (record : Record) (state : State)
    (handler : Handler) (outlet : Outlet) :
    (handle occasion record state handler).contents outlet =
      state.contents outlet ++ state.accepted outlet (state.sent record outlet handler) := by
  unfold handle sent Level.passes
  by_cases low : handler.level.value ≤ record.level.value
  · simp only [low, decide_true, Bool.not_true, Bool.false_eq_true, if_false, true_and]
    cases held : handler.outlet with
    | none => simp [accepted_nil]
    | some target =>
        have written :=
          state.contents_write_line target outlet (state.line handler.formatter record)
        have shape : (if target = outlet then
              state.accepted outlet
                (Text.utf8Bytes (state.line handler.formatter record ++ "\n"))
            else []) =
            state.accepted outlet (if some target = some outlet then
              Text.utf8Bytes (state.line handler.formatter record ++ "\n") else []) := by
          by_cases same : target = outlet <;> simp [same, accepted_nil]
        rw [shape] at written
        dsimp only
        split
        · rename_i after offered
          rw [offered] at written
          exact written
        · rename_i after fault offered
          rw [offered] at written
          rw [contents_report]
          exact written
  · simp [low, accepted_nil]

theorem sent_of_only_writes {before after : State} (writes : OnlyWrites before after)
    (record : Record) (outlet : Outlet) (handler : Handler) :
    after.sent record outlet handler = before.sent record outlet handler := by
  unfold sent
  rw [writes.line]

/-- Every outlet takes what its handlers send, in the order of the handlers. -/
theorem contents_handle_all (occasion : Occasion) (record : Record) (handlers : List Handler)
    (state : State) (outlet : Outlet) :
    (handlers.foldl (handle occasion record) state).contents outlet =
      state.contents outlet ++
        state.accepted outlet (handlers.flatMap (state.sent record outlet)) := by
  induction handlers generalizing state with
  | nil => simp [accepted_nil]
  | cons handler rest ih =>
      have writes := handle_only_writes occasion record state handler
      have took := contents_handle occasion record state handler outlet
      have sameSent : (handle occasion record state handler).sent record outlet =
          state.sent record outlet :=
        funext fun other => sent_of_only_writes writes record outlet other
      rw [List.foldl_cons, ih, sameSent, took, List.flatMap_cons,
        accepted_append (writes.stream? outlet) took, List.append_assoc]

end FunctionKit.Logging.State
