import D2b.Lib.Protobuf.Schema
import D2b.Lib.Reader

/-!
# D2b.ExecRunner.Codec

The length-prefixed binary codec of the runner's files (`codec.rs`): numbers are
little-endian, texts and byte strings carry a `u32` length.
-/

namespace D2b.ExecRunner

open Protobuf.ValueCodec
open Reader

/-- Hard ceiling for any single length-prefixed field (`MAX_FIELD_BYTES`). -/
def maxFieldBytes : Nat := 2 ^ 20

inductive DecodeError where
  | truncated | fieldTooLong | invalidUtf8 | invalidTag | trailingBytes | badMagic | badVersion
deriving DecidableEq

/-! ## the writer -/

def putU32 (value : Nat) : List UInt8 := leBytes 4 value

def putU64 (value : Nat) : List UInt8 := leBytes 8 value

def putBool (value : Bool) : List UInt8 := [if value then 1 else 0]

def putBytes (bytes : List UInt8) : List UInt8 := putU32 bytes.length ++ bytes

def putStr (value : String) : List UInt8 := putBytes (textBytes value)

/-! ## the reader -/

def getU32 : Reader DecodeError Nat := do
  let bytes ← take .truncated 4
  pure (ofLeBytes bytes)

def getU64 : Reader DecodeError Nat := do
  let bytes ← take .truncated 8
  pure (ofLeBytes bytes)

def getBool : Reader DecodeError Bool := do
  let bytes ← take .truncated 1
  match bytes with
  | [0] => pure false
  | [1] => pure true
  | _ => throw .invalidTag

def getBytes : Reader DecodeError (List UInt8) := do
  let len ← getU32
  failIf (len > maxFieldBytes) .fieldTooLong
  take .truncated len

def getStr : Reader DecodeError String := do
  let bytes ← getBytes
  match textOfBytes bytes with
  | some value => pure value
  | none => throw .invalidUtf8

/-! ## what is written is read -/

lemma reads_u32 (h : value < 2 ^ 32) : Reads getU32 (putU32 value) value := by
  have hvalue : ofLeBytes (leBytes 4 value) = value := ofLeBytes_leBytes h
  refine (Reads.take (length_leBytes 4 value)).last ?_
  rw [hvalue]
  exact Reads.pure value

lemma reads_u64 (h : value < 2 ^ 64) : Reads getU64 (putU64 value) value := by
  have hvalue : ofLeBytes (leBytes 8 value) = value := ofLeBytes_leBytes h
  refine (Reads.take (length_leBytes 8 value)).last ?_
  rw [hvalue]
  exact Reads.pure value

lemma reads_bool (value : Bool) : Reads getBool (putBool value) value := by
  have htake : Reads (take DecodeError.truncated 1) (putBool value) (putBool value) :=
    Reads.take rfl
  refine htake.last ?_
  cases value with
  | false => exact Reads.pure false
  | true => exact Reads.pure true

lemma reads_str (h : value.utf8ByteSize ≤ maxFieldBytes) : Reads getStr (putStr value) value := by
  have hlen : (textBytes value).length ≤ maxFieldBytes := by rwa [length_textBytes]
  have hsmall : (textBytes value).length < 2 ^ 32 := Nat.lt_of_le_of_lt hlen (by decide)
  have hbytes : Reads getBytes (putStr value) (textBytes value) :=
    (reads_u32 hsmall).bind ((Reads.failIf (by omega) _).skip (Reads.take rfl))
  refine hbytes.last ?_
  rw [textOfBytes_textBytes]
  exact Reads.pure value

end D2b.ExecRunner
