import TargetGraph.Source.ByteStream

/-!
# Bytes that arrive in pieces

Every stream is a run of pieces and interruptions up to its end or its first failure. Reading joins the
pieces; where they were cut, and how often a read was interrupted between them, leaves no trace. A
failure is all that is left of a stream that fails, whatever had arrived by then.
-/

namespace TargetGraph

set_option autoImplicit false

/-- The reads by which bytes arrive while a stream goes on. -/
inductive Arrives : List UInt8 → List Read → Prop where
  | nothing : Arrives [] []
  | interrupted {bytes : List UInt8} {reads : List Read} (later : Arrives bytes reads) :
      Arrives bytes (.interrupted :: reads)
  | piece {bytes : List UInt8} {reads : List Read} (chunk : List UInt8) (filled : chunk ≠ [])
      (later : Arrives bytes reads) : Arrives (chunk ++ bytes) (.bytes chunk :: reads)

/-- Reads of which the first one sees the end of the stream. -/
inductive Ends : List Read → Prop where
  | exhausted : Ends []
  | closed (unread : List Read) : Ends (.bytes [] :: unread)

namespace ByteStream

theorem every_stream_arrives (stream : ByteStream) :
    ∃ bytes reads rest, stream = reads ++ rest ∧ Arrives bytes reads ∧
      (Ends rest ∨ ∃ failure unread, rest = .failed failure :: unread) := by
  induction stream with
  | nil => exact ⟨[], [], [], rfl, .nothing, Or.inl .exhausted⟩
  | cons read stream induction =>
      obtain ⟨bytes, reads, rest, split, arrives, ending⟩ := induction
      cases read with
      | interrupted =>
          exact ⟨bytes, .interrupted :: reads, rest, by rw [split]; rfl, .interrupted arrives, ending⟩
      | failed failure => exact ⟨[], [], _, rfl, .nothing, Or.inr ⟨failure, stream, rfl⟩⟩
      | bytes chunk =>
          by_cases blank : chunk = []
          · subst blank
            exact ⟨[], [], _, rfl, .nothing, Or.inl (.closed stream)⟩
          · exact ⟨chunk ++ bytes, .bytes chunk :: reads, rest, by rw [split]; rfl,
              .piece chunk blank arrives, ending⟩

theorem read_piece {chunk : List UInt8} (filled : chunk ≠ []) (rest : ByteStream) :
    readToEnd (.bytes chunk :: rest) = (readToEnd rest).map (chunk ++ ·) := by
  cases chunk with
  | nil => exact absurd rfl filled
  | cons first more => rfl

/-- What has arrived stands in front of whatever is still to come. -/
theorem read_arrived {bytes : List UInt8} {reads : List Read} (arrives : Arrives bytes reads)
    (rest : ByteStream) : readToEnd (reads ++ rest) = (readToEnd rest).map (bytes ++ ·) := by
  induction arrives with
  | nothing =>
      cases run : readToEnd rest <;> simp [run, Except.map]
  | interrupted _ induction => exact induction
  | @piece bytes reads chunk filled _ induction =>
      rw [List.cons_append, read_piece filled, induction]
      cases readToEnd rest with
      | error failure => rfl
      | ok later => exact congrArg Except.ok (List.append_assoc _ _ _).symm

theorem read_failed {bytes : List UInt8} {reads : List Read} (arrives : Arrives bytes reads)
    (failure : ReadFailure) (unread : List Read) :
    readToEnd (reads ++ .failed failure :: unread) = .error failure := by
  rw [read_arrived arrives]
  rfl

theorem read_ended {bytes : List UInt8} {reads ending : List Read} (arrives : Arrives bytes reads)
    (ends : Ends ending) : readToEnd (reads ++ ending) = .ok bytes := by
  rw [read_arrived arrives]
  cases ends <;> exact congrArg Except.ok (List.append_nil bytes)

def reaches (failsAfter : Option Nat) (handed : Nat) : Bool :=
  failsAfter.any fun limit => decide (limit ≤ handed)

theorem reaches_later {failsAfter : Option Nat} {handed : Nat} (reached : reaches failsAfter handed)
    (more : Nat) : reaches failsAfter (handed + more) := by
  cases failsAfter with
  | none => exact reached
  | some limit =>
      have within : limit ≤ handed := of_decide_eq_true reached
      exact decide_eq_true (by omega)

/-- The bytes that have been handed out and those that are left add up to the same number throughout,
so that whether the limit is reached does not depend on the size of the pieces. -/
theorem read_chunks {size : Nat} (positive : 0 < size) (failsAfter : Option Nat) (fuel : Nat)
    (handed : Nat) (bytes : List UInt8) (enough : bytes.length < fuel) :
    readToEnd (chunked.go size failsAfter fuel handed bytes) =
      if reaches failsAfter (handed + bytes.length) then .error .streamFailed else .ok bytes := by
  induction fuel generalizing handed bytes with
  | zero => omega
  | succ fuel induction =>
      have stop : (failsAfter.any fun limit => decide (limit ≤ handed)) = reaches failsAfter handed :=
        rfl
      rw [chunked.go, stop]
      by_cases reached : reaches failsAfter handed
      · rw [if_pos reached, if_pos (reaches_later reached bytes.length)]
        rfl
      · rw [if_neg reached]
        by_cases filled : bytes = []
        · subst filled
          rw [List.take_nil, List.length_nil, Nat.add_zero, if_neg reached]
          rfl
        · have left := List.length_pos_iff.mpr filled
          have piece : bytes.take size ≠ [] := by simp [filled, Nat.ne_of_gt positive]
          have whole : (bytes.take size).length + (bytes.drop size).length = bytes.length := by
            rw [← List.length_append, List.take_append_drop]
          have shorter : (bytes.drop size).length < bytes.length := by
            rw [List.length_drop]
            omega
          have later := induction (handed + (bytes.take size).length) (bytes.drop size) (by omega)
          rw [Nat.add_assoc, whole] at later
          simp only [List.isEmpty_iff, piece, if_false, read_piece piece, later]
          split
          · rfl
          · exact congrArg Except.ok (List.take_append_drop size bytes)

theorem read_chunked {size : Nat} (positive : 0 < size) (failsAfter : Option Nat)
    (bytes : List UInt8) : readToEnd (chunked size failsAfter bytes) =
      if reaches failsAfter bytes.length then .error .streamFailed else .ok bytes := by
  rw [chunked, read_chunks positive failsAfter _ 0 bytes (Nat.lt_succ_self _), Nat.zero_add]

theorem read_chunked_within {size limit : Nat} {bytes : List UInt8} (positive : 0 < size)
    (within : limit ≤ bytes.length) :
    readToEnd (chunked size (some limit) bytes) = .error .streamFailed := by
  have reached : reaches (some limit) bytes.length := decide_eq_true within
  rw [read_chunked positive, if_pos reached]

theorem read_chunked_beyond {size limit : Nat} {bytes : List UInt8} (positive : 0 < size)
    (beyond : bytes.length < limit) :
    readToEnd (chunked size (some limit) bytes) = .ok bytes := by
  have unreached : ¬ reaches (some limit) bytes.length := by
    simpa [reaches] using beyond
  rw [read_chunked positive, if_neg unreached]

end ByteStream

end TargetGraph
