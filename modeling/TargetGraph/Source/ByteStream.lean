/-!
Bytes that arrive piece by piece. A stream is the list of what its reads give, in order; it is read until
it ends or fails, and reads that were merely interrupted are tried again.
-/
set_option autoImplicit false

namespace TargetGraph

/-- Why bytes could not be had, or not be understood as text. Causes without a name of their own keep the
words they came with. -/
inductive ReadFailure where
  | streamFailed
  | notUtf8
  | isDirectory
  | notADirectory
  | nameTooLong
  | nulInName
  | other (words : String)
deriving DecidableEq, Repr

def ReadFailure.message : ReadFailure → String
  | streamFailed => "stream failed"
  | notUtf8 => "stream did not contain valid UTF-8"
  | isDirectory => "Is a directory (os error 21)"
  | notADirectory => "Not a directory (os error 20)"
  | nameTooLong => "File name too long (os error 36)"
  | nulInName => "file name contained an unexpected NUL byte"
  | other words => words

/-- What one read gives. No bytes at all mean the end of the stream. -/
inductive Read where
  | bytes (chunk : List UInt8)
  | interrupted
  | failed (failure : ReadFailure)
deriving DecidableEq, Repr

abbrev ByteStream := List Read

namespace ByteStream

/-- All bytes up to the end of the stream. A failure on the way wins over anything that the bytes
before it may be. -/
def readToEnd : ByteStream → Except ReadFailure (List UInt8)
  | [] => .ok []
  | .interrupted :: rest => readToEnd rest
  | .failed failure :: _ => .error failure
  | .bytes [] :: _ => .ok []
  | .bytes (first :: more) :: rest => (readToEnd rest).map ((first :: more) ++ ·)

/-- The reads of a stream that hands out at most `size` bytes at a time. With a limit, a read fails
that begins when so many bytes have been handed out. The list of bytes loses at least one byte with each
read, so that its length bounds their number. -/
def chunked (size : Nat) (failsAfter : Option Nat) (bytes : List UInt8) : ByteStream :=
  go (bytes.length + 1) 0 bytes
where
  go : Nat → Nat → List UInt8 → ByteStream
    | 0, _, _ => []
    | fuel + 1, handed, bytes =>
      if failsAfter.any fun limit => decide (limit ≤ handed) then [.failed .streamFailed]
      else
        let chunk := bytes.take size
        if chunk.isEmpty then [.bytes []]
        else .bytes chunk :: go fuel (handed + chunk.length) (bytes.drop size)

end ByteStream

inductive OpenFailure where
  | notFound
  | failed (failure : ReadFailure)
deriving DecidableEq, Repr

abbrev Files := String → Except OpenFailure ByteStream

end TargetGraph
