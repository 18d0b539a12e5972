import Flowboard.Utility.Archive
import Flowboard.Utility.Clock
import Flowboard.Utility.Columns
import Flowboard.Utility.Condition
import Flowboard.Utility.Digest
import Flowboard.Utility.Dump
import Flowboard.Utility.Edit
import Flowboard.Utility.Join
import Flowboard.Utility.Listing
import Flowboard.Utility.Paragraph
import Flowboard.Utility.Scale
import Flowboard.Utility.Search
import Flowboard.Utility.Split

/-! The small programs by their names. -/
namespace Flowboard.Utility

/-- Writes a line again and again. -/
def yes (c : Call) : Effect :=
  let line := if c.args.isEmpty then "y" else " ".intercalate c.args
  { output := { text := [], tail := .repeats (line.toList ++ ['\n']) } }

/-- Writes the variables of the environment, or some of them. -/
def printenv (c : Call) : Effect :=
  if c.args.isEmpty then
    .writing (c.environment.flatMap fun (name, value) => (name ++ "=" ++ value ++ "\n").toList)
  else
    let values := c.args.map fun name => c.environment.get? name
    { output := .of (values.flatMap fun v => match v with
        | some v => (v ++ "\n").toList
        | none => [])
      status := if values.all Option.isSome then .success else .failure }

/-- Writes its arguments after a format, and tells what is wrong with them. -/
def printf (c : Call) : Effect :=
  match c.args with
  | [] => c.misused 1 "missing operand"
  | format :: args =>
    let (text, faults) := formatted true format args
    { output := .of text
      errors := faults.flatMap fun f => (c.name ++ ": " ++ f ++ "\n").toList
      status := if faults.isEmpty then .success else .failure }

def identity (c : Call) : Effect :=
  .writing (match c.args with
    | "-u" :: _ | "-g" :: _ | "-G" :: _ => "0\n"
    | "-un" :: _ | "-gn" :: _ | "-Gn" :: _ | "-nu" :: _ | "-ng" :: _ => "root\n"
    | _ => "uid=0(root) gid=0(root) groups=0(root)\n").toList

def groupsOf (_ : Call) : Effect :=
  .writing "root\n".toList

/-- Tells what runs the machine. -/
def uname (c : Call) : Effect :=
  .writing (match c.args with
    | "-m" :: _ | "-p" :: _ | "-i" :: _ => "x86_64\n"
    | "-o" :: _ => "GNU/Linux\n"
    | "-n" :: _ => "localhost\n"
    | _ => "Linux\n").toList

def catalogue : List (String × (Call → Effect)) :=
  [("[", bracket), ("arch", fun _ => .writing "x86_64\n".toList), ("b2sum", b2sum),
   ("base32", encoding base32Alphabet), ("base64", encoding base64Alphabet),
   ("basename", basename), ("cat", cat), ("chgrp", chown), ("chmod", chmod), ("chown", chown),
   ("cksum", cksum), ("cmp", cmp), ("comm", comm), ("cp", cp), ("csplit", csplit), ("cut", cut),
   ("date", date), ("dd", dd), ("diff", diff), ("dir", ls), ("dirname", dirname), ("du", du),
   ("echo", fun c => .writing (echo .optional c.args)), ("egrep", grep), ("expand", expand),
   ("expr", expr), ("factor", factor), ("false", fun _ => { status := .failure }),
   ("fgrep", grep), ("fmt", fmt), ("fold", fold), ("grep", grep), ("groups", groupsOf),
   ("gunzip", gzip), ("gzip", gzip), ("tar", tar), ("zcat", gzip),
   ("head", head), ("hostname", fun _ => .writing "localhost\n".toList), ("id", identity),
   ("install", install), ("join", join), ("link", link), ("ln", ln), ("ls", ls),
   ("md5sum", digest "MD5" md5), ("mkdir", mkdir), ("mktemp", mktemp), ("mv", mv), ("nl", nl),
   ("nproc", fun _ => .writing "1\n".toList), ("numfmt", numfmt), ("od", od), ("paste", paste),
   ("pathchk", fun _ => {}), ("printenv", printenv), ("printf", printf),
   ("pwd", fun c => .writing (FileSystem.pathOf c.files.here ++ "\n").toList),
   ("readlink", readlink), ("realpath", realpath), ("rev", rev), ("rm", rm), ("rmdir", rmdir),
   ("sed", sed), ("seq", seq), ("sha1sum", digest "SHA1" sha1),
   ("sha224sum", digest "SHA224" sha224), ("sha256sum", digest "SHA256" sha256),
   ("sha384sum", digest "SHA384" sha384), ("sha512sum", digest "SHA512" sha512),
   ("shred", fun _ => {}), ("shuf", shuf), ("sleep", sleep), ("sort", sort), ("split", split),
   ("stat", stat), ("sum", sum), ("sync", fun _ => {}), ("tac", tac), ("tail", tail), ("tee", tee),
   ("test", test), ("touch", touch), ("tr", tr), ("true", fun _ => {}), ("truncate", truncate),
   ("tsort", tsort), ("tty", fun _ => { Effect.writing "not a tty\n".toList with status := .failure }),
   ("uname", uname), ("unexpand", unexpand), ("uniq", uniq), ("unlink", unlink),
   ("users", fun _ => {}), ("vdir", ls), ("wc", wc), ("who", fun _ => {}),
   ("whoami", fun _ => .writing "root\n".toList), ("yes", yes)]

end Flowboard.Utility
