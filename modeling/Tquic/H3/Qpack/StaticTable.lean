import Tquic.H3.Basic
import Tquic.H3.Qpack.Huffman

/-! The static table, after `h3/qpack/static_table.rs`. -/

set_option autoImplicit false
set_option maxRecDepth 4096

namespace Tquic.H3.Qpack

open Huffman

/-- A byte string literal. -/
def ascii (text : String) : Bytes := text.toUTF8.toList

def staticEncodeTable : List (Bytes × Bytes × Nat) :=
  List.map (fun (name, value, index) => (ascii name, ascii value, index))
    [ (":authority", "", 0), (":method", "CONNECT", 15), (":method", "DELETE", 16),
      (":method", "GET", 17), (":method", "HEAD", 18), (":method", "OPTIONS", 19),
      (":method", "POST", 20), (":method", "PUT", 21), (":path", "/", 1), (":scheme", "http", 22),
      (":scheme", "https", 23), (":status", "100", 63), (":status", "103", 24),
      (":status", "200", 25), (":status", "204", 64), (":status", "206", 65),
      (":status", "302", 66), (":status", "304", 26), (":status", "400", 67),
      (":status", "403", 68), (":status", "404", 27), (":status", "421", 69),
      (":status", "425", 70), (":status", "500", 71), (":status", "503", 28), ("accept", "*/*", 29),
      ("accept", "application/dns-message", 30), ("accept-encoding", "gzip, deflate, br", 31),
      ("accept-language", "", 72), ("accept-ranges", "bytes", 32),
      ("access-control-allow-credentials", "FALSE", 73),
      ("access-control-allow-credentials", "TRUE", 74), ("access-control-allow-headers", "*", 75),
      ("access-control-allow-headers", "cache-control", 33),
      ("access-control-allow-headers", "content-type", 34),
      ("access-control-allow-methods", "get", 76),
      ("access-control-allow-methods", "get, post, options", 77),
      ("access-control-allow-methods", "options", 78), ("access-control-allow-origin", "*", 35),
      ("access-control-expose-headers", "content-length", 79),
      ("access-control-request-headers", "content-type", 80),
      ("access-control-request-method", "get", 81), ("access-control-request-method", "post", 82),
      ("age", "0", 2), ("alt-svc", "clear", 83), ("authorization", "", 84),
      ("cache-control", "max-age=0", 36), ("cache-control", "max-age=2592000", 37),
      ("cache-control", "max-age=604800", 38), ("cache-control", "no-cache", 39),
      ("cache-control", "no-store", 40), ("cache-control", "public, max-age=31536000", 41),
      ("content-disposition", "", 3), ("content-encoding", "br", 42),
      ("content-encoding", "gzip", 43), ("content-length", "0", 4),
      ("content-security-policy", "script-src 'none'; object-src 'none'; base-uri 'none'", 85),
      ("content-type", "application/dns-message", 44),
      ("content-type", "application/javascript", 45), ("content-type", "application/json", 46),
      ("content-type", "application/x-www-form-urlencoded", 47), ("content-type", "image/gif", 48),
      ("content-type", "image/jpeg", 49), ("content-type", "image/png", 50),
      ("content-type", "text/css", 51), ("content-type", "text/html; charset=utf-8", 52),
      ("content-type", "text/plain", 53), ("content-type", "text/plain;charset=utf-8", 54),
      ("cookie", "", 5), ("date", "", 6), ("early-data", "1", 86), ("etag", "", 7),
      ("expect-ct", "", 87), ("forwarded", "", 88), ("if-modified-since", "", 8),
      ("if-none-match", "", 9), ("if-range", "", 89), ("last-modified", "", 10), ("link", "", 11),
      ("location", "", 12), ("origin", "", 90), ("purpose", "prefetch", 91),
      ("range", "bytes=0-", 55), ("referer", "", 13), ("server", "", 92), ("set-cookie", "", 14),
      ("strict-transport-security", "max-age=31536000", 56),
      ("strict-transport-security", "max-age=31536000; includesubdomains", 57),
      ("strict-transport-security", "max-age=31536000; includesubdomains; preload", 58),
      ("timing-allow-origin", "*", 93), ("upgrade-insecure-requests", "1", 94),
      ("user-agent", "", 95), ("vary", "accept-encoding", 59), ("vary", "origin", 60),
      ("x-content-type-options", "nosniff", 61), ("x-forwarded-for", "", 96),
      ("x-frame-options", "deny", 97), ("x-frame-options", "sameorigin", 98),
      ("x-xss-protection", "1; mode=block", 62) ]

/-- Names with their values, in the order of the indexes. -/
def staticDecodeTable : List (Bytes × Bytes) :=
  List.map (fun (name, value) => (ascii name, ascii value))
    [ (":authority", ""), (":path", "/"), ("age", "0"), ("content-disposition", ""),
      ("content-length", "0"), ("cookie", ""), ("date", ""), ("etag", ""),
      ("if-modified-since", ""), ("if-none-match", ""), ("last-modified", ""), ("link", ""),
      ("location", ""), ("referer", ""), ("set-cookie", ""), (":method", "CONNECT"),
      (":method", "DELETE"), (":method", "GET"), (":method", "HEAD"), (":method", "OPTIONS"),
      (":method", "POST"), (":method", "PUT"), (":scheme", "http"), (":scheme", "https"),
      (":status", "103"), (":status", "200"), (":status", "304"), (":status", "404"),
      (":status", "503"), ("accept", "*/*"), ("accept", "application/dns-message"),
      ("accept-encoding", "gzip, deflate, br"), ("accept-ranges", "bytes"),
      ("access-control-allow-headers", "cache-control"),
      ("access-control-allow-headers", "content-type"), ("access-control-allow-origin", "*"),
      ("cache-control", "max-age=0"), ("cache-control", "max-age=2592000"),
      ("cache-control", "max-age=604800"), ("cache-control", "no-cache"),
      ("cache-control", "no-store"), ("cache-control", "public, max-age=31536000"),
      ("content-encoding", "br"), ("content-encoding", "gzip"),
      ("content-type", "application/dns-message"), ("content-type", "application/javascript"),
      ("content-type", "application/json"), ("content-type", "application/x-www-form-urlencoded"),
      ("content-type", "image/gif"), ("content-type", "image/jpeg"), ("content-type", "image/png"),
      ("content-type", "text/css"), ("content-type", "text/html; charset=utf-8"),
      ("content-type", "text/plain"), ("content-type", "text/plain;charset=utf-8"),
      ("range", "bytes=0-"), ("strict-transport-security", "max-age=31536000"),
      ("strict-transport-security", "max-age=31536000; includesubdomains"),
      ("strict-transport-security", "max-age=31536000; includesubdomains; preload"),
      ("vary", "accept-encoding"), ("vary", "origin"), ("x-content-type-options", "nosniff"),
      ("x-xss-protection", "1; mode=block"), (":status", "100"), (":status", "204"),
      (":status", "206"), (":status", "302"), (":status", "400"), (":status", "403"),
      (":status", "421"), (":status", "425"), (":status", "500"), ("accept-language", ""),
      ("access-control-allow-credentials", "FALSE"), ("access-control-allow-credentials", "TRUE"),
      ("access-control-allow-headers", "*"), ("access-control-allow-methods", "get"),
      ("access-control-allow-methods", "get, post, options"),
      ("access-control-allow-methods", "options"),
      ("access-control-expose-headers", "content-length"),
      ("access-control-request-headers", "content-type"), ("access-control-request-method", "get"),
      ("access-control-request-method", "post"), ("alt-svc", "clear"), ("authorization", ""),
      ("content-security-policy", "script-src 'none'; object-src 'none'; base-uri 'none'"),
      ("early-data", "1"), ("expect-ct", ""), ("forwarded", ""), ("if-range", ""), ("origin", ""),
      ("purpose", "prefetch"), ("server", ""), ("timing-allow-origin", "*"),
      ("upgrade-insecure-requests", "1"), ("user-agent", ""), ("x-forwarded-for", ""),
      ("x-frame-options", "deny"), ("x-frame-options", "sameorigin") ]

/-- The arms of the match on the length of a name: the names of that length, with the places of
the encoding table from which and up to which they stand. -/
def staticTableRanges : List (Nat × List (String × Nat × Nat)) :=
  [ (3, [("age", 43, 44)]),
    (4, [("date", 69, 70), ("etag", 71, 72), ("link", 78, 79), ("vary", 92, 94)]),
    (5, [(":path", 8, 9), ("range", 82, 83)]),
    (6, [("accept", 25, 27), ("cookie", 68, 69), ("origin", 80, 81), ("server", 84, 85)]),
    (7, [(":method", 1, 8), (":scheme", 9, 11), (":status", 11, 25), ("alt-svc", 44, 45),
        ("purpose", 81, 82), ("referer", 83, 84)]),
    (8, [("if-range", 76, 77), ("location", 79, 80)]),
    (9, [("expect-ct", 72, 73), ("forwarded", 73, 74)]),
    (10, [(":authority", 0, 1), ("early-data", 70, 71), ("set-cookie", 85, 86),
        ("user-agent", 91, 92)]),
    (12, [("content-type", 57, 68)]),
    (13, [("accept-ranges", 29, 30), ("authorization", 45, 46), ("cache-control", 46, 52),
        ("if-none-match", 75, 76), ("last-modified", 77, 78)]),
    (14, [("content-length", 55, 56)]),
    (15, [("accept-encoding", 27, 28), ("accept-language", 28, 29), ("x-forwarded-for", 95, 96),
        ("x-frame-options", 96, 98)]),
    (16, [("content-encoding", 53, 55), ("x-xss-protection", 98, 99)]),
    (17, [("if-modified-since", 74, 75)]),
    (19, [("content-disposition", 52, 53), ("timing-allow-origin", 89, 90)]),
    (22, [("x-content-type-options", 94, 95)]),
    (23, [("content-security-policy", 56, 57)]),
    (25, [("strict-transport-security", 86, 89), ("upgrade-insecure-requests", 90, 91)]),
    (27, [("access-control-allow-origin", 38, 39)]),
    (28, [("access-control-allow-headers", 32, 35), ("access-control-allow-methods", 35, 38)]),
    (29, [("access-control-expose-headers", 39, 40), ("access-control-request-method", 41, 43)]),
    (30, [("access-control-request-headers", 40, 41)]),
    (32, [("access-control-allow-credentials", 30, 32)]) ]

def eqIgnoreAsciiCase (left right : Bytes) : Bool :=
  left.map toAsciiLowercase == right.map toAsciiLowercase

def firstRange (name : Bytes) : List (String × Nat × Nat) → Option (Nat × Nat)
  | [] => none
  | (other, start, stop) :: rest =>
      if eqIgnoreAsciiCase name (ascii other) then some (start, stop) else firstRange name rest

def findStaticTableRange (name : Bytes) : Option (Nat × Nat) :=
  match staticTableRanges.find? (·.1 == name.length) with
  | none => none
  | some (_, names) => firstRange name names

/-- The loop of `encode_static` over the entries with the name. -/
def matchEntries (value : Bytes) :
    List (Bytes × Bytes × Nat) → Option (Nat × Bool) → Option (Nat × Bool)
  | [], nameMatch => nameMatch
  | (_, known, index) :: entries, nameMatch =>
      if known.isEmpty then some (index, false)
      else if value.length = known.length ∧ value = known then some (index, true)
      else matchEntries value entries (if nameMatch.isNone then some (index, false) else nameMatch)

def encodeStatic (name value : Bytes) : Option (Nat × Bool) :=
  match findStaticTableRange name with
  | none => none
  | some (start, stop) =>
      matchEntries value ((staticEncodeTable.drop start).take (stop - start)) none

def decodeStatic (idx : Nat) : Except Http3Error (Bytes × Bytes) :=
  match staticDecodeTable[idx]? with
  | none => .error .qpackDecompressionFailed
  | some entry => .ok entry

/-! ## An index leads back to the name -/

def rangeFits (other : String) (start stop : Nat) : Bool :=
  (ascii other).map toAsciiLowercase == ascii other &&
    ((staticEncodeTable.drop start).take (stop - start)).all fun (name, value, index) =>
      name == ascii other && staticDecodeTable[index]? == some (name, value)

theorem staticTableRanges_fit :
    (staticTableRanges.all fun (_, names) =>
      names.all fun (other, start, stop) => rangeFits other start stop) = true := by
  decide +kernel

end Tquic.H3.Qpack
