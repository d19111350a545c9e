/-!
Bytes and their texts: the standard base64 alphabet with padding, as the API writes binary
data, and the lossy reading of bytes as UTF-8, where each maximal invalid sequence becomes one
replacement character.
-/

namespace CsiOperator.Bytes

/-- The value of a base64 digit. -/
def digitValue (c : Char) : Option Nat :=
  if 'A' ≤ c ∧ c ≤ 'Z' then some (c.toNat - 'A'.toNat)
  else if 'a' ≤ c ∧ c ≤ 'z' then some (c.toNat - 'a'.toNat + 26)
  else if '0' ≤ c ∧ c ≤ '9' then some (c.toNat - '0'.toNat + 52)
  else if c = '+' then some 62
  else if c = '/' then some 63
  else none

/-- Decodes one group of four characters, of which the last `pad` are padding. -/
def decodeGroup (cs : List Char) (pad : Nat) : Option (List UInt8) := do
  let ds ← (cs.take (4 - pad)).mapM digitValue
  let n := ds.foldl (fun n d => n * 64 + d) 0 * Nat.pow 64 pad
  let bytes := [n / 65536 % 256, n / 256 % 256, n % 256].map Nat.toUInt8
  let keep := 3 - pad
  -- the bits below the kept bytes must be zero
  if n % Nat.pow 256 (3 - keep) != 0 then none
  else some (bytes.take keep)

/-- Decodes standard base64 with padding; none for text that is not canonical base64. -/
def decodeBase64? (s : String) : Option ByteArray :=
  let cs := s.toList
  if cs.length % 4 != 0 then none
  else
    let groups := (List.range (cs.length / 4)).map fun i => (cs.drop (4 * i)).take 4
    let last := groups.length
    let rec go (gs : List (List Char)) (i : Nat) (acc : Array UInt8) : Option (Array UInt8) :=
      match gs with
      | [] => some acc
      | g :: rest =>
        let pad := if i + 1 == last then
            if g.drop 2 == ['=', '='] then 2 else if g.drop 3 == ['='] then 1 else 0
          else 0
        match decodeGroup g pad with
        | some bs => go rest (i + 1) (acc ++ bs.toArray)
        | none => none
    (go groups 0 #[]).map ByteArray.mk

/-- Encodes bytes as standard base64 with padding. -/
def encodeBase64 (b : ByteArray) : String :=
  let alphabet := "ABCDEFGHIJKLMNOPQRSTUVWXYZabcdefghijklmnopqrstuvwxyz0123456789+/".toList
  let digit (n : Nat) : Char := alphabet.getD n 'A'
  let bytes := b.toList.map UInt8.toNat
  let groups := (List.range ((bytes.length + 2) / 3)).map fun i => (bytes.drop (3 * i)).take 3
  String.join (groups.map fun g =>
    let n := (g ++ List.replicate (3 - g.length) 0).foldl (fun n x => n * 256 + x) 0
    let ds := [n / 262144 % 64, n / 4096 % 64, n / 64 % 64, n % 64].map digit
    String.ofList (ds.take (g.length + 1) ++ List.replicate (3 - g.length) '='))

/-- The length of the valid prefix of a UTF-8 sequence starting at a lead byte, and the length
the whole sequence would have. -/
def sequenceBounds (lead : UInt8) : Option (Nat × UInt8 × UInt8) :=
  -- the number of continuation bytes and the range of the first of them
  if 0xC2 ≤ lead ∧ lead ≤ 0xDF then some (1, 0x80, 0xBF)
  else if lead = 0xE0 then some (2, 0xA0, 0xBF)
  else if (0xE1 ≤ lead ∧ lead ≤ 0xEC) ∨ lead = 0xEE ∨ lead = 0xEF then some (2, 0x80, 0xBF)
  else if lead = 0xED then some (2, 0x80, 0x9F)
  else if lead = 0xF0 then some (3, 0x90, 0xBF)
  else if 0xF1 ≤ lead ∧ lead ≤ 0xF3 then some (3, 0x80, 0xBF)
  else if lead = 0xF4 then some (3, 0x80, 0x8F)
  else none

/-- Reads bytes as UTF-8, replacing each maximal invalid sequence by U+FFFD. -/
def decodeUtf8Lossy (b : ByteArray) : String :=
  let bytes := b.toList
  let rec go (fuel : Nat) (bs : List UInt8) (acc : List Char) : List Char :=
    match fuel, bs with
    | 0, _ => acc.reverse
    | _, [] => acc.reverse
    | fuel + 1, lead :: rest =>
      if lead < 0x80 then go fuel rest (Char.ofNat lead.toNat :: acc)
      else match sequenceBounds lead with
        | none => go fuel rest ('\uFFFD' :: acc)
        | some (n, lo, hi) =>
          -- the first continuation byte has its own range, the others 80..BF
          let ok (i : Nat) (x : UInt8) : Bool := if i == 0 then lo ≤ x && x ≤ hi else 0x80 ≤ x && x ≤ 0xBF
          let valid := ((rest.take n).zipIdx.takeWhile fun (x, i) => ok i x).length
          if valid == n then
            let cont := (rest.take n).foldl (fun v x => v * 64 + (x.toNat % 64)) 0
            let leadBits := lead.toNat % (Nat.pow 2 (6 - n))
            go fuel (rest.drop n) (Char.ofNat (leadBits * Nat.pow 64 n + cont) :: acc)
          else go fuel (rest.drop valid) ('\uFFFD' :: acc)
  String.ofList (go (bytes.length + 1) bytes [])

end CsiOperator.Bytes
