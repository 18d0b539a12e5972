import Flowboard.Script.Prelude.Bytes
import Flowboard.Script.Prelude.Classes
import Flowboard.Script.Prelude.Files
import Flowboard.Script.Prelude.Inspection
import Flowboard.Script.Prelude.Numbers
import Flowboard.Script.Prelude.Pages
import Flowboard.Script.Prelude.Programs
import Flowboard.Script.Prelude.Tasks
import Flowboard.Script.Prelude.Texts
import Flowboard.Script.Prelude.Times

/-! Modules that are written in the language of scripts itself. -/
namespace Flowboard.Script

/-- The modules by their names. The lines of their texts stand behind bars, and in place of braces
they have angles. -/
def preludes : List (String × String) :=
  [("_groups", Prelude.innerGroupsText),
   ("_records", Prelude.innerRecordsText),
   ("_strptime", Prelude.innerStrptimeText),
   ("abc", Prelude.abcText),
   ("argparse", Prelude.argparseText),
   ("array", Prelude.arrayText),
   ("ast", Prelude.astText),
   ("asyncio", Prelude.asyncioText),
   ("base64", Prelude.base64Text),
   ("binascii", Prelude.binasciiText),
   ("calendar", Prelude.calendarText),
   ("cmath", Prelude.cmathText),
   ("collections", Prelude.collectionsText),
   ("collections._wrappers", Prelude.collectionsWrappersText),
   ("collections.abc", Prelude.collectionsAbcText),
   ("concurrent", Prelude.concurrentText),
   ("concurrent.futures", Prelude.concurrentFuturesText),
   ("contextlib", Prelude.contextlibText),
   ("contextvars", Prelude.contextvarsText),
   ("copyreg", Prelude.copyregText),
   ("csv", Prelude.csvText),
   ("dataclasses", Prelude.dataclassesText),
   ("datetime", Prelude.datetimeText),
   ("decimal", Prelude.decimalText),
   ("difflib", Prelude.difflibText),
   ("dis", Prelude.disText),
   ("enum", Prelude.enumText),
   ("fractions", Prelude.fractionsText),
   ("functools", Prelude.functoolsText),
   ("hashlib", Prelude.hashlibText),
   ("hmac", Prelude.hmacText),
   ("html", Prelude.htmlText),
   ("html.entities", Prelude.htmlEntitiesText),
   ("inspect", Prelude.inspectText),
   ("io", Prelude.ioText),
   ("json", Prelude.jsonText),
   ("linecache", Prelude.linecacheText),
   ("locale", Prelude.localeText),
   ("logging", Prelude.loggingText),
   ("numbers", Prelude.numbersText),
   ("os", Prelude.osText),
   ("os.path", Prelude.osPathText),
   ("pickle", Prelude.pickleText),
   ("platform", Prelude.platformText),
   ("pprint", Prelude.pprintText),
   ("queue", Prelude.queueText),
   ("random", Prelude.randomText),
   ("re", Prelude.reText),
   ("shutil", Prelude.shutilText),
   ("signal", Prelude.signalText),
   ("stat", Prelude.statText),
   ("statistics", Prelude.statisticsText),
   ("string", Prelude.stringText),
   ("struct", Prelude.structText),
   ("subprocess", Prelude.subprocessText),
   ("sys", Prelude.sysText),
   ("textwrap", Prelude.textwrapText),
   ("threading", Prelude.threadingText),
   ("time", Prelude.timeText),
   ("traceback", Prelude.tracebackText),
   ("types", Prelude.typesText),
   ("unicodedata", Prelude.unicodedataText),
   ("unittest", Prelude.unittestText),
   ("warnings", Prelude.warningsText),
   ("weakref", Prelude.weakrefText),
   ("xml", Prelude.xmlText),
   ("xml.etree", Prelude.xmlEtreeText),
   ("xml.etree.ElementTree", Prelude.xmlEtreeElementTreeText),
   ("zlib", Prelude.zlibText)]

/-- A line of a module as scripts have it. -/
def plainLine (line : List Char) : List Char :=
  (line.drop 2).map fun
    | '«' => '\x7b'
    | '»' => '\x7d'
    | c => c

def preludeText? (name : String) : Option String :=
  (preludes.lookup name).map fun text =>
    String.intercalate "\n" (((text.splitOn "\n").drop 1).map fun line =>
      String.ofList (plainLine line.toList))

end Flowboard.Script
