import HybridSearch.Error
import HybridSearch.Json.Basic
import HybridSearch.Text.Trim
import HybridSearch.Text.Utf8

/-!
# Comma-separated values

Records of fields, one record a line. A field may stand in double quotes, in which a quote is
written twice and a line break has no meaning. Empty lines are no records. The first record names
the columns.

## Main definitions

* `Csv.records` — the records of a file, with fields as bytes.
* `Csv.row?` — the fields of a record as trimmed texts.
* `Csv.table?` — the rows of a file as objects, each with its place in the file.
-/

namespace HybridSearch.Csv

/-- Where a reader stands: before a record, before a field, in a field without quotes, in a field
with quotes, or behind a quote that may have closed one. -/
inductive Place where
  | recordStart
  | fieldStart
  | plain
  | quoted
  | afterQuote
  deriving DecidableEq, Repr

def quote : UInt8 := 0x22

def comma : UInt8 := 0x2C

def isLineEnd (byte : UInt8) : Bool := byte = 0x0A || byte = 0x0D

/-- Reads on from a place, with the field and the fields of the record so far, the last first. -/
def read : Place → (field : Bytes) → (fields : List Bytes) → Bytes → List (List Bytes)
  | place, field, fields, [] =>
    if place = .recordStart then [] else [(field.reverse :: fields).reverse]
  | place, field, fields, byte :: rest =>
    if place = .quoted then
      if byte = quote then read .afterQuote field fields rest
      else read .quoted (byte :: field) fields rest
    else if isLineEnd byte then
      if place = .recordStart then read .recordStart field fields rest
      else (field.reverse :: fields).reverse :: read .recordStart [] [] rest
    else if byte = comma then read .fieldStart [] (field.reverse :: fields) rest
    else if byte = quote then
      if place = .plain then read .plain (byte :: field) fields rest
      else if place = .afterQuote then read .quoted (byte :: field) fields rest
      else read .quoted field fields rest
    else read .plain (byte :: field) fields rest

/-- The bytes after a byte order mark, if there is one. -/
def dropMark : Bytes → Bytes
  | 0xEF :: 0xBB :: 0xBF :: rest => rest
  | bytes => bytes

def records (bytes : Bytes) : List (List Bytes) := read .recordStart [] [] (dropMark bytes)

def row? (record : List Bytes) : Except IngestError (List String) :=
  match record.mapM Text.decode? with
  | some fields => .ok (fields.map Text.trim)
  | none => .error (.csv "invalid UTF-8")

/-- The object of a record; fields without a column are left out. -/
def object (header : List String) (fields : List String) : Json :=
  .object ((header.zip fields).map fun (name, text) => (name, .str text))

/-- The rows after the header, counted from one. -/
def table? (bytes : Bytes) : Except IngestError (List (Nat × Except IngestError Json)) :=
  match records bytes with
  | [] => .ok []
  | first :: rest => do
    let header ← row? first
    return (rest.zipIdx 1).map fun (record, row) => (row, (row? record).map (object header))

end HybridSearch.Csv
