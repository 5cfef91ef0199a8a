import Deliveries.Csv.Sink

/-!
# What a sink takes

Putting bytes into a sink either leaves a sink that holds them after those it
had, taken or still waiting in the buffer, or ends because the sink does not
admit that many bytes.  Which of the two it is does not depend on where the
buffer is handed over once the whole table has been written.  A table with
records of several lengths is never written; without a limit on the sink, the
first record of another length than the header is what it is refused for.
-/

namespace Deliveries
namespace Csv
namespace Sink

/-- The bytes that a sink has taken and those that wait for it. -/
def contents (sink : Sink) : List UInt8 :=
  sink.taken.toList ++ sink.buffer.toList

@[simp] theorem contents_ofRoom (room : Option Nat) :
    (ofRoom room).contents = [] := rfl

/-- A sink that admits so many bytes admits fewer. -/
theorem admits_of_le
    {sink : Sink} {size larger : Nat} (le : size ≤ larger)
    (admitted : sink.admits larger = true) : sink.admits size = true := by
  unfold admits at *
  cases room : sink.room with
  | none => rfl
  | some limit =>
    simp only [room, decide_eq_true_eq] at admitted ⊢
    omega

theorem admits_congr
    {left right : Sink} (sameRoom : left.room = right.room) (size : Nat) :
    left.admits size = right.admits size := by
  unfold admits
  rw [sameRoom]

/-- The results that putting bytes into a sink may have: a sink that holds them
too, or no room for them. -/
inductive Puts (sink : Sink) (bytes : List UInt8) :
    Except WriteFault Sink -> Prop
  | held
      {next : Sink}
      (sameRoom : next.room = sink.room)
      (contents_eq : next.contents = sink.contents ++ bytes) :
      Puts sink bytes (.ok next)
  | refused
      (full : sink.admits (sink.contents ++ bytes).length = false) :
      Puts sink bytes (.error .noRoom)

/-- Bytes that are put one after the other are put together. -/
theorem Puts.bind
    {sink : Sink} {front back : List UInt8}
    {result : Except WriteFault Sink}
    {onward : Sink -> Except WriteFault Sink}
    (first : Puts sink front result)
    (second : ∀ next, Puts next back (onward next)) :
    Puts sink (front ++ back) (result >>= onward) := by
  cases first with
  | @held next sameRoom contents_eq =>
    change Puts sink (front ++ back) (onward next)
    have later := second next
    generalize onward next = last at later
    cases later with
    | held laterRoom laterContents =>
      refine .held (laterRoom.trans sameRoom) ?_
      rw [laterContents, contents_eq, List.append_assoc]
    | refused full =>
      refine .refused ?_
      rw [← List.append_assoc, ← contents_eq, ← admits_congr sameRoom]
      exact full
  | refused full =>
    refine .refused ?_
    apply Bool.eq_false_iff.mpr
    intro admitted
    have shorter : (sink.contents ++ front).length ≤
        (sink.contents ++ (front ++ back)).length := by
      simp only [List.length_append]
      omega
    rw [admits_of_le shorter admitted] at full
    cases full

theorem flush_eq (sink : Sink) :
    sink.flush =
      if sink.admits sink.contents.length then
        .ok ⟨sink.room, sink.taken ++ sink.buffer, #[]⟩
      else
        .error .noRoom := by
  simp [flush, contents]

/-- Handing the buffer over keeps all bytes, and is refused only for want of
room. -/
theorem puts_flush (sink : Sink) : Puts sink [] sink.flush := by
  rw [flush_eq]
  split
  · exact .held rfl (by simp [contents])
  · next full =>
    refine .refused (Bool.eq_false_iff.mpr ?_)
    rw [List.append_nil]
    exact full

theorem puts_put (sink : Sink) (piece : List UInt8) :
    Puts sink piece (sink.put piece) := by
  unfold put
  split
  · exact .held rfl (by simp [contents])
  · have flushed := puts_flush sink
    have appended (next : Sink) : Puts next piece
        (.ok { next with buffer := next.buffer ++ piece }) :=
      .held rfl (by simp [contents])
    have both := flushed.bind appended
    rw [List.nil_append] at both
    cases result : sink.flush with
    | ok next =>
      rw [result] at both
      exact both
    | error cause =>
      rw [result] at both
      exact both

theorem puts_putAll (sink : Sink) (pieces : List (List UInt8)) :
    Puts sink pieces.flatten (sink.putAll pieces) := by
  induction pieces generalizing sink with
  | nil => exact .held rfl (by simp)
  | cons piece rest ih =>
    rw [List.flatten_cons, putAll]
    exact (puts_put sink piece).bind ih

/-- A record of the right length is put as it is rendered. -/
theorem puts_putRecord
    {width : Nat} {fields : List Field} (fitting : fields.length = width)
    (sink : Sink) :
    Puts sink (renderRecord fields) (sink.putRecord width fields) := by
  unfold putRecord
  rw [← flatten_pieces, List.flatten_append]
  apply (puts_putAll sink (bodyPieces fields)).bind
  intro next
  rw [if_pos fitting]
  exact puts_putAll next (endPieces fields)

/-- Records of the right length are put as they are rendered. -/
theorem puts_putRecords
    {width : Nat} {records : List (List Field)}
    (fitting : ∀ fields ∈ records, fields.length = width) (sink : Sink) :
    Puts sink (render records) (sink.putRecords width records) := by
  induction records generalizing sink with
  | nil => exact .held rfl (by simp)
  | cons fields rest ih =>
    rw [render_cons, putRecords]
    apply (puts_putRecord (fitting fields List.mem_cons_self) sink).bind
    exact ih fun other member => fitting other (List.mem_cons_of_mem fields member)

/-- Only a sink with a limit is ever without room. -/
theorem room_ne_none_of_full
    {sink : Sink} {size : Nat} (full : sink.admits size = false) :
    sink.room ≠ none := by
  intro unlimited
  unfold admits at full
  rw [unlimited] at full
  cases full

/-- A record of another length is refused for its length, if there is room up to
there. -/
theorem putRecord_of_misfit
    {width : Nat} {fields : List Field} (misfit : fields.length ≠ width)
    (sink : Sink) :
    sink.putRecord width fields = .error (.fieldCount fields.length width) ∨
      sink.room ≠ none ∧ sink.putRecord width fields = .error .noRoom := by
  have put := puts_putAll sink (bodyPieces fields)
  unfold putRecord
  generalize sink.putAll (bodyPieces fields) = result at put
  cases put with
  | held sameRoom contents_eq => exact .inl (if_neg misfit)
  | refused full => exact .inr ⟨room_ne_none_of_full full, rfl⟩

/-- Records are refused at the first one of another length, if there is room up
to there. -/
theorem putRecords_of_misfit
    {width : Nat} {front : List (List Field)} {fields : List Field}
    (fitting : ∀ earlier ∈ front, earlier.length = width)
    (misfit : fields.length ≠ width) (back : List (List Field))
    (sink : Sink) :
    sink.putRecords width (front ++ fields :: back) =
        .error (.fieldCount fields.length width) ∨
      sink.room ≠ none ∧
        sink.putRecords width (front ++ fields :: back) = .error .noRoom := by
  induction front generalizing sink with
  | nil =>
    rw [List.nil_append, putRecords]
    rcases putRecord_of_misfit misfit sink with refused | ⟨limited, refused⟩
    · rw [refused]
      exact .inl rfl
    · rw [refused]
      exact .inr ⟨limited, rfl⟩
  | cons earlier rest ih =>
    have put := puts_putRecord (fitting earlier List.mem_cons_self) sink
    rw [List.cons_append, putRecords]
    generalize sink.putRecord width earlier = result at put
    cases put with
    | @held next sameRoom contents_eq =>
      rw [← sameRoom]
      exact ih (fun other member =>
        fitting other (List.mem_cons_of_mem earlier member)) next
    | refused full => exact .inr ⟨room_ne_none_of_full full, rfl⟩

end Sink

/-- Records of one length are written as they are rendered, exactly when there
is room for their rendering. -/
theorem write_of_fitting
    {first : List Field} {rest : List (List Field)}
    (fitting : ∀ fields ∈ rest, fields.length = first.length)
    (room : Option Nat) :
    write room first rest =
      if (Sink.ofRoom room).admits (render (first :: rest)).length then
        .ok (render (first :: rest))
      else
        .error .noRoom := by
  have all : ∀ fields ∈ first :: rest, fields.length = first.length := by
    simpa using fitting
  have put := Sink.puts_putRecords all (Sink.ofRoom room)
  unfold write
  generalize (Sink.ofRoom room).putRecords first.length (first :: rest) = result
    at put
  cases put with
  | @held next sameRoom contents_eq =>
    rw [Sink.contents_ofRoom, List.nil_append] at contents_eq
    change (next.flush >>= fun sink => .ok sink.taken.toList) = _
    rw [Sink.flush_eq, Sink.admits_congr sameRoom, contents_eq]
    split
    · rw [← contents_eq, Sink.contents, ← Array.toList_append]
      rfl
    · rfl
  | refused full =>
    rw [Sink.contents_ofRoom, List.nil_append] at full
    rw [full]
    rfl

/-- A table is refused at its first record of another length than the header,
if there is room up to there. -/
theorem write_of_misfit
    {first fields : List Field} {front : List (List Field)}
    (fitting : ∀ earlier ∈ front, earlier.length = first.length)
    (misfit : fields.length ≠ first.length) (back : List (List Field))
    (room : Option Nat) :
    write room first (front ++ fields :: back) =
        .error (.fieldCount fields.length first.length) ∨
      room ≠ none ∧
        write room first (front ++ fields :: back) = .error .noRoom := by
  have all : ∀ earlier ∈ first :: front, earlier.length = first.length := by
    simpa using fitting
  have put := Sink.putRecords_of_misfit all misfit back (Sink.ofRoom room)
  rw [List.cons_append] at put
  unfold write
  rcases put with refused | ⟨limited, refused⟩
  · rw [refused]
    exact .inl rfl
  · rw [refused]
    exact .inr ⟨limited, rfl⟩

end Csv
end Deliveries
