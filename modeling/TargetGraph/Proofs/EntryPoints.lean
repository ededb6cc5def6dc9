import TargetGraph.Proofs.Pipeline
import TargetGraph.Proofs.Streams
import TargetGraph.Proofs.Utf8
import TargetGraph.Source.FileTree

/-!
# Texts, streams and paths

A stream gives what its bytes give once they are put together: the graph or the error of the text that
they encode, or the refusal of bytes that encode none. A failure of the stream comes before both. A path
gives what a stream of its file's bytes gives.
-/

namespace TargetGraph

open Text.Utf8 (bytesOf)

set_option autoImplicit false

namespace Graph

theorem stream_failed {stream : ByteStream} {failure : ReadFailure}
    (failed : stream.readToEnd = .error failure) :
    ofStream stream = .fail (.document (.unreadable failure)) := by
  rw [ofStream, Document.ofStream, failed]
  rfl

theorem stream_garbled {stream : ByteStream} {bytes : List UInt8}
    (read : stream.readToEnd = .ok bytes) (garbled : ∀ text : String, bytesOf text ≠ bytes) :
    ofStream stream = .fail (.document (.unreadable .notUtf8)) := by
  have refused := Text.Utf8.decode_none garbled
  simp only [ofStream, Document.ofStream, read, refused]
  rfl

theorem stream_decoded {stream : ByteStream} {text : String}
    (read : stream.readToEnd = .ok (bytesOf text)) : ofStream stream = ofText text := by
  have decoded := (Text.Utf8.decode_some_iff (bytesOf text) text).mpr rfl
  simp only [ofStream, Document.ofStream, read, decoded, String.ofList_toList]
  rfl

theorem stream_congruent {stream other : ByteStream} (same : stream.readToEnd = other.readToEnd) :
    ofStream stream = ofStream other := by
  rw [ofStream, ofStream, Document.ofStream, Document.ofStream, same]

theorem text_readable (text : String) (failure : ReadFailure) :
    (ofText text).outcome ≠ .error (.document (.unreadable failure)) := by
  intro unreadable
  cases read : Document.entriesOf text with
  | error error =>
      rw [text_unread read] at unreadable
      cases unreadable
  | ok entries =>
      rw [text_read read] at unreadable
      cases shape : Document.ofEntries entries with
      | error fault =>
          rw [shape] at unreadable
          cases unreadable
      | ok document =>
          rw [shape] at unreadable
          cases built : (build document.declarations).outcome with
          | error error =>
              simp only [built] at unreadable
              cases unreadable
          | ok graph =>
              simp only [built] at unreadable
              cases unreadable

theorem read_stream_unfailed {stream : ByteStream} {bytes : List UInt8}
    (read : stream.readToEnd = .ok bytes) :
    (ofStream stream).outcome ≠ .error (.document (.unreadable .streamFailed)) := by
  by_cases garbled : ∀ text : String, bytesOf text ≠ bytes
  · rw [stream_garbled read garbled]
    exact nofun
  · simp only [not_forall, not_not] at garbled
    obtain ⟨text, same⟩ := garbled
    rw [stream_decoded (by rw [read, same])]
    exact text_readable text .streamFailed

theorem path_opened {files : Files} {path : String} {stream : ByteStream}
    (opened : files path = .ok stream) :
    (ofPath files path).outcome = (ofStream stream).outcome := by
  rw [ofPath, Document.ofPath, opened, ofReading, ofStream, ofReading, Traced.outcome_bind,
    Traced.outcome_bind]
  rfl

theorem file_read (bytes : List UInt8) : ByteStream.readToEnd (FileTree.reads (.file bytes)) = .ok bytes := by
  rw [FileTree.reads]
  by_cases blank : bytes = []
  · subst blank
    rfl
  · rw [ByteStream.read_piece blank]
    exact congrArg Except.ok (List.append_nil bytes)

/-- Whether a limit makes a stream fail depends neither on the size of its pieces nor on its bytes. -/
theorem limited_stream_fails_iff {size limit : Nat} (positive : 0 < size) (bytes : List UInt8) :
    (ofStream (.chunked size (some limit) bytes)).outcome =
      .error (.document (.unreadable .streamFailed)) ↔ limit ≤ bytes.length := by
  by_cases within : limit ≤ bytes.length
  · rw [stream_failed (ByteStream.read_chunked_within positive within)]
    exact iff_of_true rfl within
  · have read := ByteStream.read_chunked_beyond positive (Nat.lt_of_not_le within)
    exact iff_of_false (read_stream_unfailed read) within

/-- However bytes are cut into pieces, a stream of them gives what their text gives, unless it fails or
they have no text; a limit on the bytes that are handed out makes it fail just when it is not beyond
their end; and the path of a file with these bytes leads to the same. There are no other streams than
bytes that arrive in pieces up to the end or a failure. -/
theorem entry_points_agree (bytes : List UInt8) (reads ending : List Read)
    (arrives : Arrives bytes reads) (ends : Ends ending) :
    (∀ failure unread, ofStream (reads ++ .failed failure :: unread) =
      .fail (.document (.unreadable failure))) ∧
    ((∀ text : String, bytesOf text ≠ bytes) →
      ofStream (reads ++ ending) = .fail (.document (.unreadable .notUtf8)) ∧
        ReadFailure.notUtf8.message = "stream did not contain valid UTF-8") ∧
    (∀ text : String, bytesOf text = bytes → ofStream (reads ++ ending) = ofText text) ∧
    (∀ size limit, 0 < size →
      ((ofStream (.chunked size (some limit) bytes)).outcome =
          .error (.document (.unreadable .streamFailed)) ↔ limit ≤ bytes.length) ∧
      (bytes.length < limit →
        ofStream (.chunked size (some limit) bytes) = ofStream (reads ++ ending))) ∧
    (∀ (directory : FileTree) (path : String), directory.follow path = .ok (.file bytes) →
      (ofPath directory.files path).outcome = (ofStream (reads ++ ending)).outcome) ∧
    ∀ stream : ByteStream, ∃ handed before rest, stream = before ++ rest ∧ Arrives handed before ∧
      (Ends rest ∨ ∃ failure unread, rest = .failed failure :: unread) := by
  have whole := ByteStream.read_ended arrives ends
  refine ⟨?_, ?_, ?_, ?_, ?_, ByteStream.every_stream_arrives⟩
  · intro failure unread
    exact stream_failed (ByteStream.read_failed arrives failure unread)
  · intro garbled
    exact ⟨stream_garbled whole garbled, rfl⟩
  · rintro text rfl
    exact stream_decoded whole
  · intro size limit positive
    refine ⟨limited_stream_fails_iff positive bytes, ?_⟩
    intro beyond
    have read := ByteStream.read_chunked_beyond positive beyond
    exact stream_congruent (read.trans whole.symm)
  · intro directory path found
    have opened : directory.files path = .ok (FileTree.reads (.file bytes)) := by
      rw [FileTree.files, found]
      rfl
    rw [path_opened opened, stream_congruent ((file_read bytes).trans whole.symm)]

/-- A name of two bytes that arrive apart, with an interruption between them. -/
def splitName : List Read := [.bytes [0xC3], .interrupted, .bytes [0xA9, 0x3A, 0x20, 0x5B, 0x5D]]

theorem split_name_loads_as_text : ∃ bytes, Arrives bytes splitName ∧ Ends [.bytes []] ∧
    bytesOf "é: []" = bytes ∧ ofStream (splitName ++ [.bytes []]) = ofText "é: []" ∧
    ofStream (.chunked 4 (some 8) bytes) = ofText "é: []" ∧
    ∃ handed before rest, ByteStream.chunked 4 (some 5) bytes = before ++ rest ∧
      Arrives handed before ∧ (Ends rest ∨ ∃ failure unread, rest = .failed failure :: unread) := by
  have arrives : Arrives [0xC3, 0xA9, 0x3A, 0x20, 0x5B, 0x5D] splitName :=
    .piece [0xC3] (by decide) (.interrupted (.piece [0xA9, 0x3A, 0x20, 0x5B, 0x5D] (by decide) .nothing))
  have ends : Ends [.bytes []] := .closed []
  have spelled : bytesOf "é: []" = [0xC3, 0xA9, 0x3A, 0x20, 0x5B, 0x5D] := by decide
  obtain ⟨_, _, decoded, chunked, _, every⟩ := entry_points_agree _ splitName _ arrives ends
  have text := decoded "é: []" spelled
  exact ⟨_, arrives, ends, spelled, text,
    ((chunked 4 8 (by decide)).2 (by decide)).trans text, every _⟩

end Graph

end TargetGraph
