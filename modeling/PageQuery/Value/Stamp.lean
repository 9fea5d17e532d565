import PageQuery.Value

namespace PageQuery.Stamp

/-!
# Days and moments as text

* `Stamp.iso`: the international form, with a given separator between day and time;
* `Stamp.shown`: the form inside a shown list or map.
-/

/-- A numeral of two digits. -/
def two (n : Nat) : Text := Text.padLeft 2 '0' (Text.ofNat n)

/-- Year, month and day with hyphens. -/
def dayText (year month day : Nat) : Text :=
  Text.padLeft 4 '0' (Text.ofNat year) ++ '-' :: two month ++ '-' :: two day

/-- A distance from universal time as hours and minutes, and seconds if there are any. -/
def offsetText (seconds : Int) : Text :=
  let n := seconds.natAbs
  let sign := if seconds < 0 then '-' else '+'
  let tail := if n % 60 = 0 then [] else ':' :: two (n % 60)
  sign :: two (n / 3600) ++ ':' :: two (n / 60 % 60) ++ tail

/-- The international form; fractions of a second and the distance from universal time are written
    only where there are any. -/
def iso (sep : Char) : Stamp → Text
  | .day y m d => dayText y m d
  | .moment y m d h mi s us offset =>
    let fraction := if us = 0 then [] else '.' :: Text.padLeft 6 '0' (Text.ofNat us)
    dayText y m d ++ sep :: two h ++ ':' :: two mi ++ ':' :: two s ++ fraction ++
      (offset.map offsetText).getD []

/-- Numerals with commas between them. -/
def listed (ns : List Nat) : Text := Text.join ", " (ns.map Text.ofNat)

/-- The form of a day or moment as a part of something shown. -/
def shown : Stamp → Text
  | .day y m d => "datetime.date(" ++ listed [y, m, d] ++ [')']
  | .moment y m d h mi s us offset =>
    let seconds := if us ≠ 0 then [s, us] else if s ≠ 0 then [s] else []
    let zone : Text := match offset with
      | none => []
      | some 0 => ", tzinfo=datetime.timezone.utc"
      | some k =>
        let days := k.fdiv 86400
        let rest := Text.ofInt (k.fmod 86400)
        let delta : Text :=
          if days = 0 then "seconds=" ++ rest
          else "days=" ++ Text.ofInt days ++ ", seconds=" ++ rest
        ", tzinfo=datetime.timezone(datetime.timedelta(" ++ delta ++ "))"
    "datetime.datetime(" ++ listed ([y, m, d, h, mi] ++ seconds) ++ zone ++ [')']

end PageQuery.Stamp
