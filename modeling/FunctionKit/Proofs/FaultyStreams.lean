import FunctionKit.Proofs.OpenStreams

/-!
# Streams with faults

What an outlet holds is told by all that was sent to it, and so is which lines met a fault. A
limited stream faults a line whose break lies beyond the limit, an unflushable one every line. Each
fault is reported once, on the occasion on which its line was handed over.
-/

namespace FunctionKit.Logging

set_option autoImplicit false

/-! ## Bytes and faults by what was sent -/

/-- All bytes that were sent to an outlet. -/
def sentTo (outlet : Outlet) (handed : List Handover) : List UInt8 :=
  handed.flatMap fun handover => if handover.outlet = outlet then handover.bytes else []

/-- What is held of the bytes that were sent to an outlet. -/
def heldOf : Option Stream → List UInt8 → List UInt8
  | some (.limited limit _), sent => sent.take limit
  | _, sent => sent

/-- The fault of a line that ends after a number of bytes. -/
def faultAt : Option Stream → Nat → Option String
  | some (.limited limit fault), ending => if limit < ending then some fault else none
  | some (.unflushable fault), _ => some fault
  | _, _ => none

structure LineFault where
  handover : Handover
  text : String

def LineFault.report (fault : LineFault) : Report :=
  { occasion := fault.handover.occasion
    diagnostic := .writeFailed fault.handover.logger fault.text }

/-- The lines among some handovers that meet a fault, when others came before. -/
def lineFaults (streams : Outlet → Option Stream) (before : List Handover) :
    List Handover → List LineFault
  | [] => []
  | next :: rest =>
    let ending := (sentTo next.outlet (before ++ [next])).length
    ((faultAt (streams next.outlet) ending).map (LineFault.mk next)).toList ++
      lineFaults streams (before ++ [next]) rest

theorem held_of_nothing (stream : Option Stream) : heldOf stream [] = [] := by
  cases stream with
  | none => rfl
  | some shape => cases shape <;> simp [heldOf]

theorem sent_to_snoc (outlet : Outlet) (handed : List Handover) (next : Handover) :
    sentTo outlet (handed ++ [next]) =
      sentTo outlet handed ++ if next.outlet = outlet then next.bytes else [] := by
  simp [sentTo]

theorem line_faults_append (streams : Outlet → Option Stream)
    (before early late : List Handover) :
    lineFaults streams before (early ++ late) =
      lineFaults streams before early ++ lineFaults streams (before ++ early) late := by
  induction early generalizing before with
  | nil => simp [lineFaults]
  | cons next rest ih => simp [lineFaults, ih]

/-- Only the streams that lines were sent to play a part. -/
theorem line_faults_congr {streams others : Outlet → Option Stream} (handed : List Handover)
    (same : ∀ handover ∈ handed, streams handover.outlet = others handover.outlet)
    (before : List Handover) :
    lineFaults streams before handed = lineFaults others before handed := by
  induction handed generalizing before with
  | nil => rfl
  | cons next rest ih =>
      have later := ih (fun other member => same other (List.mem_cons_of_mem _ member))
        (before ++ [next])
      rw [lineFaults, lineFaults, same next List.mem_cons_self, later]

theorem sent_to_none {outlet : Outlet} {handed : List Handover}
    (elsewhere : ∀ handover ∈ handed, handover.outlet ≠ outlet) : sentTo outlet handed = [] := by
  apply List.flatMap_eq_nil_iff.mpr
  intro handover member
  rw [if_neg (elsewhere handover member)]

namespace State

/-! ## One line -/

theorem offer_fault (state : State) (outlet : Outlet) (bytes : List UInt8) :
    (state.offer outlet bytes).2 =
      match state.stream? outlet with
      | some (.limited limit fault) =>
        if limit - (state.contents outlet).length < bytes.length then some fault else none
      | _ => none := by
  unfold offer
  cases state.stream? outlet with
  | none => rfl
  | some stream => cases stream <;> rfl

theorem flush_fault_of_only_writes {before after : State} (writes : OnlyWrites before after)
    (outlet : Outlet) : after.flushFault? outlet = before.flushFault? outlet := by
  unfold flushFault?
  rw [writes.stream?]

theorem write_line_steps (state : State) (outlet : Outlet) (line : String) :
    (state.writeLine outlet line).2 =
      let offered := state.offer outlet (Text.utf8Bytes line)
      offered.2 <|> (offered.1.offer outlet (Text.utf8Bytes "\n")).2 <|>
        state.flushFault? outlet := by
  have firstWrites := state.offer_only_writes outlet (Text.utf8Bytes line)
  unfold writeLine
  dsimp only
  cases offered : state.offer outlet (Text.utf8Bytes line) with
  | mk after fault =>
      rw [offered] at firstWrites
      cases fault with
      | some fault => rfl
      | none =>
          have secondWrites := after.offer_only_writes outlet (Text.utf8Bytes "\n")
          dsimp only
          cases offeredBreak : after.offer outlet (Text.utf8Bytes "\n") with
          | mk last fault =>
              rw [offeredBreak] at secondWrites
              cases fault with
              | some fault => rfl
              | none => exact flush_fault_of_only_writes (firstWrites.trans secondWrites) outlet

theorem line_break_bytes (line : String) :
    (Text.utf8Bytes (line ++ "\n")).length = (Text.utf8Bytes line).length + 1 := by
  rw [utf8_bytes_append, List.length_append]
  rfl

/-- A line and its break are offered one after the other, and fault as if offered at once. -/
theorem write_line_fault (state : State) (outlet : Outlet) (line : String) :
    (state.writeLine outlet line).2 =
      match state.stream? outlet with
      | some (.limited limit fault) =>
        if limit - (state.contents outlet).length < (Text.utf8Bytes (line ++ "\n")).length then
          some fault
        else none
      | some (.unflushable fault) => some fault
      | _ => none := by
  have writes := state.offer_only_writes outlet (Text.utf8Bytes line)
  have took := state.contents_offer outlet outlet (Text.utf8Bytes line)
  rw [if_pos rfl] at took
  rw [write_line_steps]
  dsimp only
  rw [offer_fault, offer_fault, writes.stream?, flushFault?]
  cases stream : state.stream? outlet with
  | none => rfl
  | some shape =>
      cases shape with
      | reliable => rfl
      | unflushable fault => rfl
      | limited limit fault =>
          rw [accepted_of_limited stream] at took
          have length := congrArg List.length took
          rw [List.length_append, List.length_take] at length
          have single : (Text.utf8Bytes "\n").length = 1 := rfl
          dsimp only
          rw [length, single, line_break_bytes]
          by_cases whole : limit - (state.contents outlet).length < (Text.utf8Bytes line).length + 1
          · rw [if_pos whole]
            split
            · rfl
            · -- the line fits exactly, so its break does not
              rw [if_pos (by omega)]
              rfl
          · rw [if_neg whole, if_neg (by omega), if_neg (by omega)]
            rfl

/-! ## One handover -/

theorem reports_of_write_line (state : State) (outlet : Outlet) (line : String) :
    (state.writeLine outlet line).1.reports = state.reports := by
  have offered : ∀ (start : State) (bytes : List UInt8),
      (start.offer outlet bytes).1.reports = start.reports := by
    intro start bytes
    -- written bytes are no report
    have silent : ∀ taken, (start.emit (.written outlet taken)).reports = start.reports :=
      fun taken => List.filterMap_append.trans (List.append_nil _)
    unfold offer
    split <;> exact silent _
  have first := offered state (Text.utf8Bytes line)
  unfold writeLine
  split
  · rename_i after fault shape
    rw [shape] at first
    exact first
  · rename_i after shape
    rw [shape] at first
    have second := offered after (Text.utf8Bytes "\n")
    split
    · rename_i last fault shapeBreak
      rw [shapeBreak] at second
      exact second.trans first
    · rename_i last shapeBreak
      rw [shapeBreak] at second
      exact second.trans first

theorem contents_hand (state : State) (handover : Handover) (outlet : Outlet) :
    (state.hand handover).contents outlet =
      state.contents outlet ++
        if handover.outlet = outlet then state.accepted outlet handover.bytes else [] := by
  have written := state.contents_write_line handover.outlet outlet handover.line
  unfold hand
  dsimp only
  split
  · exact written
  · exact (contents_report _ _ _ _).trans written

/-- Handing over reports the fault of its line, if there is one, and nothing else. -/
theorem reports_of_hand (state : State) (handover : Handover) :
    (state.hand handover).reports =
      state.reports ++
        ((state.writeLine handover.outlet handover.line).2.map (LineFault.mk handover)).toList.map
          LineFault.report := by
  have written := state.reports_of_write_line handover.outlet handover.line
  unfold hand
  dsimp only
  cases (state.writeLine handover.outlet handover.line).2 with
  | none =>
      rw [written]
      exact (List.append_nil _).symm
  | some text =>
      dsimp only
      rw [reports_of_report, written]
      rfl

theorem write_faults_of_hand (state : State) (handover : Handover) :
    (state.hand handover).writeFaults =
      state.writeFaults ++
        ((state.writeLine handover.outlet handover.line).2.map (LineFault.mk handover)).toList.map
          LineFault.report := by
  unfold writeFaults
  rw [reports_of_hand, List.filter_append]
  cases (state.writeLine handover.outlet handover.line).2 <;> rfl

theorem other_reports_of_hand (state : State) (handover : Handover) :
    (state.hand handover).otherReports = state.otherReports := by
  unfold otherReports
  rw [reports_of_hand, List.filter_append]
  cases (state.writeLine handover.outlet handover.line).2 <;> exact List.append_nil _

/-! ## The tally of a run -/

/-- What was handed over tells what every outlet holds and which faults were reported. -/
structure Tally (handed : List Handover) (state : State) : Prop where
  isOpen : ∀ handover ∈ handed, handover.outlet.IsOpen state.streams.length
  contents : ∀ outlet, state.contents outlet = heldOf (state.stream? outlet) (sentTo outlet handed)
  writeFaults : state.writeFaults = (lineFaults state.stream? [] handed).map LineFault.report

theorem tally_of_empty_journal {state : State} (empty : state.journal = []) : Tally [] state where
  isOpen := fun _ member => absurd member List.not_mem_nil
  contents := by
    intro outlet
    have nothing : state.contents outlet = [] := by rw [State.contents, empty]; rfl
    rw [nothing]
    exact (held_of_nothing _).symm
  writeFaults := by
    rw [State.writeFaults, reports, empty]
    rfl

theorem stream_of_open {before after : State} {opened : List Stream}
    (streams : after.streams = before.streams ++ opened) {outlet : Outlet}
    (isOpen : outlet.IsOpen before.streams.length) :
    after.stream? outlet = before.stream? outlet := by
  cases outlet with
  | standardOutput => rfl
  | stream id =>
      have inside : id < before.streams.length := isOpen id rfl
      simp only [stream?, streams, List.getElem?_append_left inside]

theorem is_open_later {before after : State} {opened : List Stream}
    (streams : after.streams = before.streams ++ opened) {outlet : Outlet}
    (isOpen : outlet.IsOpen before.streams.length) : outlet.IsOpen after.streams.length := by
  intro id same
  have inside := isOpen id same
  rw [streams, List.length_append]
  omega

section Tallies

variable {early late : List Handover} {before after : State}

/-- A stream that is only opened now was sent nothing. -/
theorem Tally.quiet (tally : Tally early before) (still : Quiet before after) :
    Tally early after := by
  obtain ⟨opened, streams⟩ := still.streams
  have sameFaults : lineFaults after.stream? [] early = lineFaults before.stream? [] early :=
    line_faults_congr early
      (fun handover member => stream_of_open streams (tally.isOpen handover member)) []
  refine ⟨?_, ?_, ?_⟩
  · exact fun handover member => is_open_later streams (tally.isOpen handover member)
  · intro outlet
    rw [still.contents, tally.contents]
    by_cases served : ∃ handover ∈ early, handover.outlet = outlet
    · obtain ⟨handover, member, same⟩ := served
      have isOpen := tally.isOpen handover member
      rw [same] at isOpen
      rw [stream_of_open streams isOpen]
    · have nothing : sentTo outlet early = [] := by
        apply sent_to_none
        intro handover member same
        exact served ⟨handover, member, same⟩
      rw [nothing, held_of_nothing, held_of_nothing]
  · rw [still.writeFaults, sameFaults]
    exact tally.writeFaults

/-- What was sent before decides where a line ends, and so whether it meets a fault. -/
theorem Tally.fault_of_next (tally : Tally early before) (next : Handover) :
    (before.writeLine next.outlet next.line).2 =
      faultAt (before.stream? next.outlet) (sentTo next.outlet (early ++ [next])).length := by
  have broken : next.bytes.length = (Text.utf8Bytes next.line).length + 1 :=
    line_break_bytes next.line
  have ending : (sentTo next.outlet (early ++ [next])).length =
      (sentTo next.outlet early).length + next.bytes.length := by
    rw [sent_to_snoc, if_pos rfl, List.length_append]
  have contents := congrArg List.length (tally.contents next.outlet)
  rw [write_line_fault, ending]
  cases stream : before.stream? next.outlet with
  | none => rfl
  | some shape =>
      cases shape with
      | reliable => rfl
      | unflushable fault => rfl
      | limited limit fault =>
          rw [stream, heldOf, List.length_take] at contents
          dsimp only
          rw [contents, faultAt]
          have line : (Text.utf8Bytes (next.line ++ "\n")).length = next.bytes.length := rfl
          rw [line]
          by_cases beyond : limit < (sentTo next.outlet early).length + next.bytes.length
          · rw [if_pos beyond, if_pos (by omega)]
          · rw [if_neg beyond, if_neg (by omega)]

theorem held_of_append {state : State} {outlet : Outlet} {sent : List UInt8}
    (held : state.contents outlet = heldOf (state.stream? outlet) sent) (bytes : List UInt8) :
    heldOf (state.stream? outlet) (sent ++ bytes) =
      state.contents outlet ++ state.accepted outlet bytes := by
  unfold accepted
  rw [held]
  cases state.stream? outlet with
  | none => rfl
  | some shape =>
      cases shape with
      | reliable => rfl
      | unflushable fault => rfl
      | limited limit fault =>
          simp only [heldOf]
          rw [List.take_append, List.length_take]
          congr 2
          omega

theorem Tally.hand (tally : Tally early before) (next : Handover)
    (isOpen : next.outlet.IsOpen before.streams.length) :
    Tally (early ++ [next]) (before.hand next) := by
  have writes := before.hand_only_writes next
  have streams : (before.hand next).stream? = before.stream? := funext writes.stream?
  have fault := tally.fault_of_next next
  have faults := line_faults_append before.stream? [] early [next]
  rw [List.nil_append, lineFaults, lineFaults, List.append_nil, ← fault] at faults
  refine ⟨?_, ?_, ?_⟩
  · intro handover member
    rw [writes.streams]
    rcases List.mem_append.mp member with old | new
    · exact tally.isOpen handover old
    · rw [List.mem_singleton.mp new]
      exact isOpen
  · intro outlet
    rw [streams, contents_hand, sent_to_snoc]
    by_cases same : next.outlet = outlet
    · rw [if_pos same, if_pos same]
      exact (held_of_append (tally.contents outlet) next.bytes).symm
    · rw [if_neg same, if_neg same, List.append_nil, List.append_nil]
      exact tally.contents outlet
  · rw [streams, write_faults_of_hand, faults, List.map_append, tally.writeFaults]

theorem Hands.longer (hands : Hands before late after) :
    before.streams.length ≤ after.streams.length := by
  induction hands with
  | start => exact le_rfl
  | quiet _ still ih =>
      obtain ⟨opened, streams⟩ := still.streams
      rw [streams, List.length_append]
      omega
  | @hand _ last _ next ih =>
      rw [(last.hand_only_writes next).streams]
      exact ih

theorem Tally.hands (tally : Tally early before) (hands : Hands before late after)
    (isOpen : ∀ handover ∈ late, handover.outlet.IsOpen before.streams.length) :
    Tally (early ++ late) after := by
  induction hands with
  | start =>
      rw [List.append_nil]
      exact tally
  | quiet _ still ih => exact (ih isOpen).quiet still
  | hand hands next ih =>
      have earlier := ih fun handover member => isOpen handover (List.mem_append_left _ member)
      rw [← List.append_assoc]
      apply earlier.hand next
      intro id same
      have inside := isOpen next (List.mem_append_right _ (List.mem_singleton.mpr rfl)) id same
      have longer := hands.longer
      omega

/-- A possible run keeps the tally of all that it hands over. -/
theorem Tally.run {state : State} (commands : List Command) (openOnly : OpenOnly state)
    (possible : Command.ArePossible state.streams.length commands)
    (tally : Tally early state) :
    Tally (early ++ state.handed commands) (State.run state commands) := by
  induction commands generalizing state early with
  | nil =>
      rw [handed, List.append_nil]
      exact tally
  | cons command rest ih =>
      obtain ⟨here, later⟩ := possible
      have streams := congrArg List.length (state.streams_of_perform command)
      rw [List.length_append] at streams
      rw [← streams] at later
      have next := tally.hands (state.perform_hands here.reports_no_fault)
        (handovers_to_open openOnly command)
      rw [handed, ← List.append_assoc]
      exact ih (perform_open_only openOnly here) later next

end Tallies

end State

end FunctionKit.Logging
