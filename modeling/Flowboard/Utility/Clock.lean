import Flowboard.Time.Phrase
import Flowboard.Utility.Format

/-! Programs that wait and that tell the time. -/
namespace Flowboard.Utility

/-- A time of so many milliseconds, in which a letter stands for a multiple of seconds. -/
def millis? (s : String) : Option Nat :=
  let cs := s.toList
  let (number, factor) := match cs.getLast? with
    | some 's' => (cs.dropLast, 1)
    | some 'm' => (cs.dropLast, 60)
    | some 'h' => (cs.dropLast, 3600)
    | some 'd' => (cs.dropLast, 86400)
    | _ => (cs, 1)
  match decimal? number with
  | some (false, num, den) => some (num * factor * 1000 / den)
  | _ => none

def sleep (c : Call) : Effect :=
  if c.args.isEmpty then c.misused 1 "missing operand"
  else if c.args.any fun a => a = "infinity" || a = "inf" then .stuck
  else
    match c.args.find? fun a => (millis? a).isNone with
    | some bad => c.misused 1 ("invalid time interval '" ++ bad ++ "'")
    | none => { millis := c.args.foldl (fun n a => n + (millis? a).getD 0) 0 }

def Call.zone (c : Call) : Zone :=
  match c.environment.get? "TZ" with
  | some setting => .ofSetting setting
  | none => .universal

/-- The formats of the standard for a time, from days down to billionths. -/
def standardFormat (precision : String) : Option String :=
  let formats : List (String × String) :=
    [("date", "%Y-%m-%d"), ("hours", "%Y-%m-%dT%H%:z"), ("minutes", "%Y-%m-%dT%H:%M%:z"),
     ("seconds", "%Y-%m-%dT%H:%M:%S%:z"), ("ns", "%Y-%m-%dT%H:%M:%S,%N%:z")]
  (formats.find? fun e => e.1.startsWith precision).map (·.2)

/-- Tells the time, or another one that is given. -/
def date (c : Call) : Effect :=
  let table : OptionTable :=
    { flags := ['u', 'R', 'I'], valued := ['d', 'r', 'f', 's', 'i', '3']
      long := [("utc", 'u'), ("universal", 'u'), ("date", 'd'), ("reference", 'r'), ("file", 'f'),
        ("rfc-email", 'R'), ("iso-8601", 'I'), ("rfc-3339", '3'), ("set", 's')] }
  -- the precision stands behind the letter without a blank
  let args := c.args.map fun a =>
    if a.startsWith "-I" && 2 < a.length then "-i" ++ String.ofList (a.toList.drop 2)
    else if a.startsWith "--iso-8601=" then "-i" ++ String.ofList (a.toList.drop 11)
    else a
  (c.withArgs args).withOptions table fun o =>
    let zone := if o.has 'u' then .universal else c.zone
    let now := zone.moment startOfRuns
    let format? : Option String :=
      match o.operands with
      | operand :: _ =>
        match operand.toList with
        | '+' :: format => some (String.ofList format)
        | _ => none
      | [] =>
        match o.value? 'i', o.value? '3' with
        | some p, _ => standardFormat p
        | none, some "date" => some "%Y-%m-%d"
        | none, some "seconds" => some "%Y-%m-%d %H:%M:%S%:z"
        | none, some "ns" => some "%Y-%m-%d %H:%M:%S.%N%:z"
        | none, some _ => none
        | none, none =>
          some (if o.has 'R' then "%a, %d %b %Y %H:%M:%S %z"
            else if o.has 'I' then "%Y-%m-%d"
            else "%a %b %e %H:%M:%S %Z %Y")
    let told (format : String) (phrase : String) : Effect :=
      match Phrase.parse? zone now phrase.toList with
      | some (seconds, nanos) =>
        let m := { zone.moment seconds with nanos, yearDigits := 4 }
        .writing (m.text format.toList ++ ['\n'])
      | none => c.fails 1 ("invalid date " ++ quotedName phrase)
    match format?, o.value? 'd', o.value? 'f', o.value? 'r' with
    | none, _, _, _ => c.fails 1 ("invalid date " ++ quotedName (o.operands.headD ""))
    | some format, some phrase, _, _ => told format phrase
    | some format, none, some path, _ =>
      c.each [path] 1 id fun _ p =>
        match p.all? with
        | some text =>
          ((Text.lines text).map fun l => told format (String.ofList (Text.chomp l))).foldl
            Effect.followed {}
        | none => .stuck
    | some format, none, none, some path =>
      match c.files.find path with
      | .ok _ => .writing (now.text format.toList ++ ['\n'])
      | .error e => c.fails 1 (path ++ ": " ++ e.reason)
    | some format, none, none, none => .writing (now.text format.toList ++ ['\n'])

end Flowboard.Utility
