/-! Modules for searches by patterns, for data in a notation for other programs, for numbers as
bytes, for paragraphs, for what is known of characters, for letters and patterns of texts, for
values over several lines, for tables with names in texts, for differences of texts, in the
language of scripts. -/
namespace Flowboard.Script.Prelude

/-- The module for searches by patterns. -/
def reText : String := r#"
| from _search import compile as _read, find as _find, spans as _spans
| __all__ = ['match', 'fullmatch', 'search', 'sub', 'split', 'findall', 'finditer', 'compile',
|     'escape', 'error', 'Pattern', 'Match', 'A', 'I', 'L', 'M', 'S', 'X', 'U', 'ASCII',
|     'IGNORECASE', 'LOCALE', 'MULTILINE', 'DOTALL', 'VERBOSE', 'UNICODE', 'NOFLAG', 'RegexFlag']
| _most = 1 << 62

| class error(Exception):
|     pass

| class RegexFlag(int):

|     def __or__(self, other):
|         return RegexFlag(int(self) | int(other))
|     __ror__ = __or__
| NOFLAG = RegexFlag(0)
| ASCII = A = RegexFlag(256)
| IGNORECASE = I = RegexFlag(2)
| LOCALE = L = RegexFlag(4)
| UNICODE = U = RegexFlag(32)
| MULTILINE = M = RegexFlag(8)
| DOTALL = S = RegexFlag(16)
| VERBOSE = X = RegexFlag(64)
| TEMPLATE = T = RegexFlag(1)
| DEBUG = RegexFlag(128)

| class Match:
|     __slots__ = ('re', 'string', 'pos', 'endpos', '_spans', 'lastindex')

|     def __init__(self, pattern, string, pos, endpos, spans):
|         self.re = pattern
|         self.string = string
|         self.pos = pos
|         self.endpos = endpos
|         self._spans = spans
|         self.lastindex = spans[-1]

|     @property
|     def lastgroup(self):
|         if self.lastindex is not None:
|             for name, number in self.re.groupindex.items():
|                 if number == self.lastindex:
|                     return name
|         return None

|     def _index(self, group):
|         if hasattr(type(group), '__index__'):
|             number = group.__index__()
|             if 0 <= number <= self.re.groups:
|                 return number
|         elif isinstance(group, str) and group in self.re.groupindex:
|             return self.re.groupindex[group]
|         raise IndexError('no such group')

|     def _get(self, number, default=None):
|         start = self._spans[2 * number]
|         if start < 0:
|             return default
|         return self.string[start:self._spans[2 * number + 1]]

|     def group(self, *groups):
|         if not groups:
|             return self._get(0)
|         if len(groups) == 1:
|             return self._get(self._index(groups[0]))
|         return tuple((self._get(self._index(group)) for group in groups))

|     def __getitem__(self, group):
|         return self._get(self._index(group))

|     def groups(self, default=None):
|         return tuple((self._get(i, default) for i in range(1, self.re.groups + 1)))

|     def groupdict(self, default=None):
|         return dict(((name, self._get(i, default)) for name, i in self.re.groupindex.items()))

|     def start(self, group=0):
|         return self._spans[2 * self._index(group)]

|     def end(self, group=0):
|         return self._spans[2 * self._index(group) + 1]

|     def span(self, group=0):
|         number = self._index(group)
|         return (self._spans[2 * number], self._spans[2 * number + 1])

|     def __bool__(self):
|         return True

| class Pattern:
|     __slots__ = ('pattern', 'flags', 'groups', 'groupindex', '_handle')

|     def _check(self, string):
|         if isinstance(string, (bytes, bytearray)):
|             if isinstance(self.pattern, str):
|                 raise TypeError('cannot use a string pattern on a bytes-like object')
|             return bytes(string)
|         if isinstance(string, str):
|             if isinstance(self.pattern, bytes):
|                 raise TypeError('cannot use a bytes pattern on a string-like object')
|             return str(string)
|         raise TypeError('expected string or bytes-like object, got %r' % type(string).__name__)

|     def _find(self, string, pos, endpos, how):
|         text = self._check(string)
|         spans = _find(self._handle, text, pos, endpos, how)
|         if spans is None:
|             return None
|         size = len(text)
|         return Match(self, string, min(max(pos, 0), size), min(max(endpos, 0), size), spans)

|     def search(self, string, pos=0, endpos=_most):
|         return self._find(string, pos, endpos, 'search')

|     def match(self, string, pos=0, endpos=_most):
|         return self._find(string, pos, endpos, 'match')

|     def fullmatch(self, string, pos=0, endpos=_most):
|         return self._find(string, pos, endpos, 'fullmatch')

|     def _piece(self, text, spans, number):
|         start = spans[2 * number]
|         return text[0:0] if start < 0 else text[start:spans[2 * number + 1]]

|     def findall(self, string, pos=0, endpos=_most):
|         text = self._check(string)
|         found = _spans(self._handle, text, pos, endpos, 0)
|         if self.groups == 0:
|             return [text[spans[0]:spans[1]] for spans in found]
|         if self.groups == 1:
|             return [self._piece(text, spans, 1) for spans in found]
|         numbers = range(1, self.groups + 1)
|         return [tuple([self._piece(text, spans, i) for i in numbers]) for spans in found]

|     def finditer(self, string, pos=0, endpos=_most):
|         text = self._check(string)
|         size = len(text)
|         first, last = (min(max(pos, 0), size), min(max(endpos, 0), size))
|         found = _spans(self._handle, text, pos, endpos, 0)
|         return iter([Match(self, string, first, last, spans) for spans in found])

|     def split(self, string, maxsplit=0):
|         text = self._check(string)
|         parts = []
|         last = 0
|         if maxsplit < 0:
|             return [text]
|         for spans in _spans(self._handle, text, 0, _most, maxsplit):
|             parts.append(text[last:spans[0]])
|             for i in range(1, self.groups + 1):
|                 if spans[2 * i] < 0:
|                     parts.append(None)
|                 else:
|                     parts.append(text[spans[2 * i]:spans[2 * i + 1]])
|             last = spans[1]
|         parts.append(text[last:])
|         return parts

|     def subn(self, repl, string, count=0):
|         text = self._check(string)
|         if callable(repl):
|             make = repl
|         else:
|             backslash = '\\' if isinstance(text, str) else b'\\'
|             if isinstance(repl, (str, bytes)) and backslash not in repl:

|                 def make(m):
|                     return repl
|             else:
|                 parts = _template(repl, self)

|                 def make(m):
|                     return _expanded(parts, m)
|         parts_out = []
|         last = 0
|         number = 0
|         size = len(text)
|         if count >= 0:
|             for spans in _spans(self._handle, text, 0, _most, count):
|                 parts_out.append(text[last:spans[0]])
|                 piece = make(Match(self, string, 0, size, spans))
|                 if piece is not None:
|                     parts_out.append(piece)
|                 last = spans[1]
|                 number += 1
|         parts_out.append(text[last:])
|         try:
|             return (text[0:0].join(parts_out), number)
|         except TypeError:
|             for i, part in enumerate(parts_out):
|                 if not isinstance(part, type(text)):
|                     kind = 'str' if isinstance(text, str) else 'a bytes-like object'
|                     raise TypeError('sequence item %d: expected %s instance, %s found' % (i,
|                         kind, type(part).__name__)) from None
|             raise

|     def sub(self, repl, string, count=0):
|         return self.subn(repl, string, count)[0]

| def _template(source, pattern):
|     is_bytes = isinstance(source, bytes)
|     if not isinstance(source, (str, bytes)):
|         raise TypeError('decoding to str: need a bytes-like object, %s found'
|             % type(source).__name__)
|     text = source.decode('latin-1') if is_bytes else source
|     parts = []
|     literal = []
|     size = len(text)
|     i = 0

|     def add_group(number, place):
|         if number > pattern.groups:
|             raise error('invalid group reference %d' % number, source, place)
|         if literal:
|             parts.append(''.join(literal))
|             literal.clear()
|         parts.append(number)
|     while i < size:
|         c = text[i]
|         if c != '\\':
|             literal.append(c)
|             i += 1
|             continue
|         if i + 1 >= size:
|             raise error('bad escape (end of pattern)', source, i)
|         d = text[i + 1]
|         if d == 'g':
|             if text[i + 2:i + 3] != '<':
|                 raise error('missing <', source, i + 2)
|             stop = text.find('>', i + 3)
|             if stop < 0:
|                 if i + 3 >= size:
|                     raise error('missing group name', source, i + 3)
|                 raise error('missing >, unterminated name', source, i + 3)
|             name = text[i + 3:stop]
|             if not name:
|                 raise error('missing group name', source, i + 3)
|             if name.isidentifier():
|                 if name not in pattern.groupindex:
|                     raise IndexError('unknown group name %r' % name)
|                 add_group(pattern.groupindex[name], i + 3)
|             elif name.isdecimal() and name.isascii():
|                 add_group(int(name), i + 3)
|             else:
|                 raise error('bad character in group name %r' % name, source, i + 3)
|             i = stop + 1
|         elif d == '0':
|             digits = d
|             while len(digits) < 3 and text[i + 1 + len(digits):i + 2 + len(digits)] in _octal:
|                 digits += text[i + 1 + len(digits)]
|             literal.append(chr(int(digits, 8) & 255))
|             i += 1 + len(digits)
|         elif d in '123456789':
|             digits = d
|             rest = text[i + 2:i + 4]
|             if rest and rest[0] in '0123456789':
|                 digits += rest[0]
|                 if d in '01234567' and rest[0] in '01234567' and (len(rest) > 1) and (rest[1] in '01234567'):
|                     digits += rest[1]
|                     number = int(digits, 8)
|                     if number > 255:
|                         raise error('octal escape value \\%s outside of range 0-0o377' % digits,
|                             source, i)
|                     literal.append(chr(number))
|                     i += 4
|                     continue
|             add_group(int(digits), i + 1)
|             i += 1 + len(digits)
|         elif d in 'abfnrtv\\':
|             literal.append('\x07\x08\x0c\n\r\t\x0b\\'['abfnrtv\\'.index(d)])
|             i += 2
|         elif d.isascii() and d.isalpha():
|             raise error('bad escape \\' + d, source, i)
|         else:
|             literal.append(c + d)
|             i += 2
|     if literal:
|         parts.append(''.join(literal))
|     if is_bytes:
|         parts = [p if isinstance(p, int) else p.encode('latin-1') for p in parts]
|     return parts
| _octal = tuple('01234567')

| def _expanded(parts, m):
|     empty = m.string[0:0]
|     out = []
|     for part in parts:
|         out.append(m._get(part, empty) if isinstance(part, int) else part)
|     return empty.join(out)
| _cache = dict()

| def compile(pattern, flags=0):
|     if isinstance(pattern, Pattern):
|         if flags:
|             raise ValueError('cannot process flags argument with a compiled pattern')
|         return pattern
|     key = (type(pattern), pattern, int(flags))
|     found = _cache.get(key)
|     if found is not None:
|         return found
|     if not isinstance(pattern, (str, bytes)):
|         raise TypeError('first argument must be string or compiled pattern')
|     if isinstance(pattern, bytes) and int(flags) & 32:
|         raise ValueError('cannot use UNICODE flag with a bytes pattern')
|     if isinstance(pattern, str) and int(flags) & 4:
|         raise ValueError('cannot use LOCALE flag with a str pattern')
|     if int(flags) & 256 and int(flags) & 32:
|         raise ValueError('ASCII and UNICODE flags are incompatible')
|     read = _read(pattern, int(flags))
|     if len(read) == 2:
|         raise error(read[0], pattern, read[1])
|     made = Pattern()
|     made.pattern = pattern
|     made._handle, made.flags, made.groups, names = read
|     made.groupindex = dict(names)
|     _cache[key] = made
|     return made

| def match(pattern, string, flags=0):
|     return compile(pattern, flags).match(string)

| def fullmatch(pattern, string, flags=0):
|     return compile(pattern, flags).fullmatch(string)

| def search(pattern, string, flags=0):
|     return compile(pattern, flags).search(string)

| def sub(pattern, repl, string, count=0, flags=0):
|     return compile(pattern, flags).sub(repl, string, count)

| def split(pattern, string, maxsplit=0, flags=0):
|     return compile(pattern, flags).split(string, maxsplit)

| def findall(pattern, string, flags=0):
|     return compile(pattern, flags).findall(string)

| def finditer(pattern, string, flags=0):
|     return compile(pattern, flags).finditer(string)
| _special = '()[]«»?*+-|^$\\.&~' + chr(35) + ' \t\n\r\x0b\x0c'

| def escape(pattern):
|     if isinstance(pattern, str):
|         return ''.join(['\\' + c if c in _special else c for c in pattern])
|     text = pattern.decode('latin-1')
|     return ''.join(['\\' + c if c in _special else c for c in text]).encode('latin-1')
| for _kind in (Match, Pattern, error):
|     _kind.__module__ = 're'
"#

/-- The module for data in a notation for other programs. -/
def jsonText : String := r#"
| from _json import encode as _encode, decode as _decode
| __all__ = ['dumps', 'loads', 'JSONDecoder', 'JSONDecodeError', 'JSONEncoder']

| class JSONDecodeError(ValueError):
|     __module__ = 'json.decoder'

|     def __init__(self, msg, doc, pos):
|         self.lineno = doc.count('\n', 0, pos) + 1
|         self.colno = pos - doc.rfind('\n', 0, pos)
|         ValueError.__init__(self, '%s: line %d column %d (char %d)' % (msg, self.lineno,
|             self.colno, pos))
|         self.msg = msg
|         self.doc = doc
|         self.pos = pos

| def _skip(s, i):
|     n = len(s)
|     while i < n and s[i] in ' \t\n\r':
|         i += 1
|     return i

| class JSONDecoder:
|     __module__ = 'json.decoder'

|     def __init__(self, *, object_hook=None, parse_float=None, parse_int=None,
|         parse_constant=None, strict=True, object_pairs_hook=None):
|         self.object_hook = object_hook
|         self.parse_float = parse_float
|         self.parse_int = parse_int
|         self.parse_constant = parse_constant
|         self.strict = strict
|         self.object_pairs_hook = object_pairs_hook

|     def decode(self, s):
|         obj, stop = self.raw_decode(s, _skip(s, 0))
|         stop = _skip(s, stop)
|         if stop != len(s):
|             raise JSONDecodeError('Extra data', s, stop)
|         return obj

|     def raw_decode(self, s, idx=0):
|         return _decode(s, idx, self.object_hook, self.object_pairs_hook, self.parse_float,
|             self.parse_int, self.parse_constant, bool(self.strict))

| class JSONEncoder:
|     __module__ = 'json.encoder'
|     item_separator = ', '
|     key_separator = ': '

|     def __init__(self, *, skipkeys=False, ensure_ascii=True, check_circular=True,
|         allow_nan=True, sort_keys=False, indent=None, separators=None, default=None):
|         self.skipkeys = skipkeys
|         self.ensure_ascii = ensure_ascii
|         self.check_circular = check_circular
|         self.allow_nan = allow_nan
|         self.sort_keys = sort_keys
|         self.indent = indent
|         if separators is not None:
|             self.item_separator, self.key_separator = separators
|         elif indent is not None:
|             self.item_separator = ','
|         if default is not None:
|             self.default = default

|     def default(self, o):
|         raise TypeError('Object of type %s is not JSON serializable' % o.__class__.__name__)

|     def encode(self, o):
|         indent = self.indent
|         if isinstance(indent, bool):
|             indent = int(indent)
|         return _encode(o, indent, self.item_separator, self.key_separator,
|             bool(self.ensure_ascii), bool(self.sort_keys), bool(self.skipkeys),
|             bool(self.allow_nan), self.default)

| def dumps(obj, *, skipkeys=False, ensure_ascii=True, check_circular=True, allow_nan=True,
|     cls=None, indent=None, separators=None, default=None, sort_keys=False, **kw):
|     if cls is None:
|         cls = JSONEncoder
|     return cls(skipkeys=skipkeys, ensure_ascii=ensure_ascii, check_circular=check_circular,
|         allow_nan=allow_nan, indent=indent, separators=separators, default=default,
|         sort_keys=sort_keys, **kw).encode(obj)

| def loads(s, *, cls=None, object_hook=None, parse_float=None, parse_int=None,
|     parse_constant=None, object_pairs_hook=None, **kw):
|     if isinstance(s, str):
|         if s.startswith('\ufeff'):
|             raise JSONDecodeError('Unexpected UTF-8 BOM (decode using utf-8-sig)', s, 0)
|     elif isinstance(s, (bytes, bytearray)):
|         s = bytes(s).decode('utf-8', 'surrogatepass')
|     else:
|         raise TypeError('the JSON object must be str, bytes or bytearray, not '
|             + s.__class__.__name__)
|     if cls is None:
|         cls = JSONDecoder
|     if object_hook is not None:
|         kw['object_hook'] = object_hook
|     if object_pairs_hook is not None:
|         kw['object_pairs_hook'] = object_pairs_hook
|     if parse_float is not None:
|         kw['parse_float'] = parse_float
|     if parse_int is not None:
|         kw['parse_int'] = parse_int
|     if parse_constant is not None:
|         kw['parse_constant'] = parse_constant
|     return cls(**kw).decode(s)
"#

/-- The module for numbers as bytes. -/
def structText : String := r#"
| from _bits import float_bytes as _float_bytes, bytes_float as _bytes_float
| __all__ = ['calcsize', 'pack', 'unpack', 'Struct', 'error']

| class error(Exception):
|     pass
| error.__module__ = 'struct'
| _sizes = dict(zip('xcbB?hHiIlLqQefd', (1, 1, 1, 1, 1, 2, 2, 4, 4, 4, 4, 8, 8, 2, 4, 8)))
| _native = dict(_sizes, l=8, L=8, n=8, N=8, P=8)

| def _read(fmt):
|     if isinstance(fmt, bytes):
|         fmt = fmt.decode('ascii')
|     if not isinstance(fmt, str):
|         raise TypeError('Struct() argument 1 must be a str or bytes object, not '
|             + type(fmt).__name__)
|     mark = fmt[:1]
|     aligned = False
|     order = 'little'
|     sizes = _sizes
|     if mark in ('@', '=', '<', '>', '!') and mark:
|         rest = fmt[1:]
|         if mark == '@':
|             aligned = True
|             sizes = _native
|         elif mark in '>!':
|             order = 'big'
|     else:
|         rest = fmt
|         aligned = True
|         sizes = _native
|     items = []
|     size = 0
|     i = 0
|     n = len(rest)
|     while i < n:
|         c = rest[i]
|         i += 1
|         if c.isspace():
|             continue
|         count = 1
|         counted = False
|         if '0' <= c <= '9':
|             count = int(c)
|             counted = True
|             while i < n and '0' <= rest[i] <= '9':
|                 count = count * 10 + int(rest[i])
|                 i += 1
|             if i >= n:
|                 raise error('repeat count given without format specifier')
|             c = rest[i]
|             i += 1
|         if c in 'sp':
|             items.append((c, size, count))
|             size += count
|             continue
|         if c not in sizes:
|             raise error('bad char in struct format')
|         width = sizes[c]
|         if aligned and c != 'x':
|             size = (size + width - 1) // width * width
|         if c == 'x':
|             size += count
|             continue
|         for _ in range(count):
|             items.append((c, size, width))
|             size += width
|     return (order, items, size)
| _kept = dict()

| def _known(fmt):
|     known = _kept.get(fmt)
|     if known is None:
|         known = _kept[fmt] = _read(fmt)
|     return known

| def _integer(c, v, width, order):
|     if not isinstance(v, int):
|         if hasattr(v, '__index__'):
|             v = v.__index__()
|         else:
|             raise error('required argument is not an integer')
|     signed = c in 'bhilqn'
|     low, high = (-(1 << 8 * width - 1), (1 << 8 * width - 1) - 1) if signed else (0,
|         (1 << 8 * width) - 1)
|     if not low <= v <= high:
|         if c in 'qQ':
|             raise error('argument out of range' if order == 'little'
|                 else 'int too large to convert')
|         named = c in 'bB' or (c in 'hH' and order == 'little')
|         if signed or named:
|             far = not -1 << 63 <= v < 1 << 63
|         else:
|             far = not 0 <= v < 1 << 64
|         if far:
|             raise error('argument out of range')
|         what = ('byte', 'ubyte', 'short', 'ushort')['bBhH'.index(c)] if named else "'%s'" % c
|         raise error('%s format requires %d <= number <= %d' % (what, low, high))
|     return v.to_bytes(width, order, signed=signed)

| def _pack(fmt, values):
|     order, items, size = _known(fmt)
|     if len(values) != len(items):
|         raise error('pack expected %d items for packing (got %d)' % (len(items), len(values)))
|     out = bytearray(size)
|     for (c, place, width), v in zip(items, values):
|         if c == 's' or c == 'p':
|             if not isinstance(v, (bytes, bytearray)):
|                 raise error("argument for '%s' must be a bytes object" % c)
|             b = bytes(v)
|             if c == 'p':
|                 b = b[:min(width - 1, 255)] if width else b''
|                 b = bytes([len(b)]) + b if width else b''
|             b = b[:width]
|         elif c == 'c':
|             if not isinstance(v, (bytes, bytearray)) or len(v) != 1:
|                 raise error('char format requires a bytes object of length 1')
|             b = bytes(v)
|         elif c == '?':
|             b = b'\x01' if v else b'\x00'
|         elif c in 'efd':
|             if not isinstance(v, (int, float)) and (not hasattr(v, '__float__')):
|                 raise error('required argument is not a float')
|             b = _float_bytes(float(v), width)
|             if b is None:
|                 raise OverflowError('float too large to pack with %s format' % c)
|             if order == 'big':
|                 b = b[::-1]
|         else:
|             b = _integer(c, v, width, order)
|         out[place:place + len(b)] = b
|     return bytes(out)

| def _unpack(fmt, data):
|     order, items, size = _known(fmt)
|     out = []
|     for c, place, width in items:
|         b = data[place:place + width]
|         if c == 's':
|             out.append(b)
|         elif c == 'p':
|             out.append(b[1:1 + b[0]] if b else b'')
|         elif c == 'c':
|             out.append(b)
|         elif c == '?':
|             out.append(b != b'\x00')
|         elif c in 'efd':
|             out.append(_bytes_float(b if order == 'little' else b[::-1]))
|         else:
|             out.append(int.from_bytes(b, order, signed=c in 'bhilqn'))
|     return tuple(out)

| def calcsize(format):
|     return _known(format)[2]

| def pack(format, *values):
|     return _pack(format, values)

| def unpack(format, buffer):
|     data = bytes(buffer)
|     size = calcsize(format)
|     if len(data) != size:
|         raise error('unpack requires a buffer of %d bytes' % size)
|     return _unpack(format, data)

| class Struct:
|     pass
"#

def textwrapText : String := r#"
| from re import compile as _compile, sub as _sub
| __all__ = ['TextWrapper', 'fill', 'indent', 'shorten']
| _blank, _no_blank, _letter = ('[\\t\\n\\x0b\\x0c\\r ]', '[^\\t\\n\\x0b\\x0c\\r ]', '[^\\d\\W]')
| _before = '(?<=[\\w!"\'&.,?])'

| class TextWrapper:
|     wordsep_re = _compile('(' + _blank + '+|' + _before + '-«2,»(?=\\w)|' + _no_blank
|         + '+?(?:-(?:(?<=' + _letter + '«2»-)|(?<=' + _letter + '-' + _letter + '-))(?='
|         + _letter + '-?' + _letter + ')|(?=' + _blank + '|\\Z)|' + _before + '(?=-«2,»\\w)))')
|     wordsep_simple_re = _compile('(' + _blank + '+)')
|     sentence_end_re = _compile('[a-z][.!?]["\']?\\Z')

|     def __init__(self, width=70, initial_indent='', subsequent_indent='', expand_tabs=True,
|         replace_whitespace=True, fix_sentence_endings=False, break_long_words=True,
|         drop_whitespace=True, break_on_hyphens=True, tabsize=8, *, max_lines=None,
|         placeholder=' [...]'):
|         given = dict(locals())
|         del given['self']
|         self.__dict__.update(given)

|     def _chunks(self, text):
|         if self.expand_tabs:
|             text = text.expandtabs(self.tabsize)
|         if self.replace_whitespace:
|             text = _sub(_blank, ' ', text)
|         chunks, i = ([c for c in (self.wordsep_re if self.break_on_hyphens is True
|             else self.wordsep_simple_re).split(text) if c], 0)
|         while self.fix_sentence_endings and i < len(chunks) - 1:
|             if chunks[i + 1] == ' ' and self.sentence_end_re.search(chunks[i]):
|                 i += 1
|                 chunks[i] = '  '
|             i += 1
|         return chunks[::-1]

|     def wrap(self, text):
|         chunks, lines, mark, most = (self._chunks(text), [], self.placeholder, self.max_lines)
|         if self.width <= 0:
|             raise ValueError('invalid width %r (must be > 0)' % self.width)
|         if most is not None and len(self.subsequent_indent if most > 1
|             else self.initial_indent) + len(mark.lstrip()) > self.width:
|             raise ValueError('placeholder too large for max width')
|         while chunks:
|             line, n, indent = ([], 0, self.subsequent_indent if lines else self.initial_indent)
|             width = self.width - len(indent)
|             if self.drop_whitespace and lines and (not chunks[-1].strip()):
|                 chunks.pop()
|             while chunks and n + len(chunks[-1]) <= width:
|                 n += len(chunks[-1])
|                 line.append(chunks.pop())
|             if chunks and len(chunks[-1]) > width:
|                 self._break(chunks, line, 1 if width < 1 else width - n)
|                 n = sum(map(len, line))
|             if self.drop_whitespace and line and (not line[-1].strip()):
|                 n -= len(line.pop())
|             if not line:
|                 continue
|             if most is None or len(lines) + 1 < most or (n <= width and (not chunks
|                 or (self.drop_whitespace and len(chunks) == 1 and (not chunks[0].strip())))):
|                 lines.append(indent + ''.join(line))
|                 continue
|             while line and (not (line[-1].strip() and n + len(mark) <= width)):
|                 n -= len(line.pop())
|             if line:
|                 return lines + [indent + ''.join(line) + mark]
|             if lines and len(lines[-1].rstrip()) + len(mark) <= self.width:
|                 return lines[:-1] + [lines[-1].rstrip() + mark]
|             return lines + [indent + mark.lstrip()]
|         return lines

|     def fill(self, text):
|         return '\n'.join(self.wrap(text))

| def fill(text, width=70, **kwargs):
|     return TextWrapper(width, **kwargs).fill(text)

| def shorten(text, width, **kwargs):
|     return TextWrapper(width, max_lines=1, **kwargs).fill(' '.join(text.split()))

| def indent(text, prefix, predicate=str.strip):
|     predicate = predicate or str.strip
|     return ''.join([prefix + line if predicate(line) else line
|         for line in text.splitlines(True)])
"#

/-- The module for what is known of characters. -/
def unicodedataText : String := r#"
| from _marks import name as _name, named as _named, normal as _normal, number as _number
| from _marks import trait as _trait

| def _character(function, c, place=''):
|     if not isinstance(c, str):
|         raise TypeError('%s() argument%s must be a unicode character, not %s' % (function,
|             place, type(c).__name__))
|     if len(c) != 1:
|         raise TypeError('%s() argument%s must be a unicode character, not %s' % (function,
|             place, type(c).__name__))
|     return c

| def _single(kind, args):
|     if len(args) != 1:
|         raise TypeError('unicodedata.%s() takes exactly one argument (%d given)' % (kind,
|             len(args)))
|     return _trait(kind, _character(kind, args[0]))

| def category(*args):
|     return _single('category', args)

| def combining(*args):
|     return _single('combining', args)

| def east_asian_width(*args):
|     return _single('east_asian_width', args)

| def _value(kind, text, args):
|     if not args:
|         raise TypeError('%s expected at least 1 argument, got 0' % kind)
|     if len(args) > 2:
|         raise TypeError('%s expected at most 2 arguments, got %d' % (kind, len(args)))
|     found = _number(kind, _character(kind, args[0], ' 1'))
|     if found is None:
|         if len(args) == 2:
|             return args[1]
|         raise ValueError(text)
|     return found

| def numeric(*args):
|     return _value('numeric', 'not a numeric character', args)

| def name(*args):
|     if not args:
|         raise TypeError('name expected at least 1 argument, got 0')
|     if len(args) > 2:
|         raise TypeError('name expected at most 2 arguments, got %d' % len(args))
|     found = _name(_character('name', args[0], ' 1'))
|     if found is None:
|         if len(args) == 2:
|             return args[1]
|         raise ValueError('no such name')
|     return found

| def lookup(*args):
|     if len(args) != 1:
|         raise TypeError('unicodedata.lookup() takes exactly one argument (%d given)'
|             % len(args))
|     text = args[0]
|     if isinstance(text, (bytes, bytearray)):
|         text = bytes(text).decode('latin-1')
|     elif not isinstance(text, str):
|         raise TypeError("a bytes-like object is required, not '%s'" % type(text).__name__)
|     found = _named(text)
|     if found is None:
|         raise KeyError("undefined character name '%s'" % text)
|     return found
| _forms = «'NFC': (False, True), 'NFD': (False, False), 'NFKC': (True, True), 'NFKD': (True,
|     False)»

| def _formed(function, args):
|     if len(args) != 2:
|         raise TypeError('%s expected 2 arguments, got %d' % (function, len(args)))
|     form, text = args
|     for place, arg in enumerate(args, 1):
|         if not isinstance(arg, str):
|             raise TypeError('%s() argument %d must be str, not %s' % (function, place,
|                 type(arg).__name__))
|     if not text:
|         return text
|     if form not in _forms:
|         raise ValueError('invalid normalization form')
|     alike, together = _forms[form]
|     return _normal(alike, together, text)

| def normalize(*args):
|     return _formed('normalize', args)
"#

/-- The module for letters and patterns of texts. -/
def stringText : String := r#"
| from collections import ChainMap as _ChainMap
| import _braces
| import re as _re
| __all__ = ('ascii_letters ascii_lowercase ascii_uppercase capwords digits hexdigits octdigits '
|  'printable punctuation whitespace Formatter Template').split()
| whitespace, digits, octdigits = (' \t\n\r\x0b\x0c', '0123456789', '01234567')
| ascii_lowercase = 'abcdefghijklmnopqrstuvwxyz'
| ascii_uppercase = ascii_lowercase.upper()
| ascii_letters, hexdigits = (ascii_lowercase + ascii_uppercase, digits + 'abcdefABCDEF')
| punctuation = '!"' '#$%&\'()*+,-./:;<=>?@[\\]^_`«|»~'
| printable = digits + ascii_letters + punctuation + whitespace

| def capwords(s, sep=None):
|     return (sep or ' ').join(map(str.capitalize, s.split(sep)))

| class Template:
|     delimiter, idpattern, braceidpattern = ('$', '(?a:[_a-z][_a-z0-9]*)', None)
|     flags = _re.IGNORECASE

|     def __init_subclass__(cls):
|         super().__init_subclass__()
|         pattern = cls.__dict__.get('pattern')
|         if pattern is None:
|             mark, name = (_re.escape(cls.delimiter), cls.idpattern)
|             pattern = '%s(?:(?P<escaped>%s)|(?P<named>%s)|«(?P<braced>%s)»|(?P<invalid>))' % (mark, mark, name, cls.braceidpattern or name)
|         cls.pattern = _re.compile(pattern, cls.flags | _re.VERBOSE)

|     def __init__(self, template):
|         self.template = template

|     def _names(self):
|         for found in self.pattern.finditer(self.template):
|             name = found['named'] or found['braced']
|             if name is found['escaped'] is found['invalid'] is None:
|                 raise ValueError('Unrecognized named group in pattern', self.pattern)
|             yield (found, name)

|     def _filled(self, mapping, kws, safe):
|         mapping = _ChainMap(kws, *mapping)
|         out, place = ('', 0)
|         for found, name in self._names():
|             out += self.template[place:found.start()]
|             place = found.end()
|             if name is not None:
|                 try:
|                     out += str(mapping[name])
|                 except KeyError:
|                     if not safe:
|                         raise KeyError(name) from None
|                     out += found[0]
|             elif found['escaped'] is not None:
|                 out += self.delimiter
|             elif safe:
|                 out += found[0]
|             else:
|                 i = found.start('invalid')
|                 lines = self.template[:i].splitlines(True) or ['']
|                 raise ValueError('Invalid placeholder in string: line %d, col %d' % (len(lines),
|                     i - len(''.join(lines[:-1])) if i else 1))
|         return out + self.template[place:]

|     def substitute(self, /, *mapping, **kws):
|         return self._filled(mapping, kws, False)
| Template.__init_subclass__()

| class Formatter:
|     pass
"#

/-- The module for values over several lines. -/
def pprintText : String := r#"
| import sys as _sys
| from collections import ChainMap, Counter, OrderedDict, UserDict, UserList, UserString, defaultdict, deque
| from re import findall as _findall
| from types import MappingProxyType, SimpleNamespace
| __all__ = 'pprint pformat isreadable isrecursive saferepr PrettyPrinter pp'.split()

| def pprint(object, stream=None, *args, **named):
|     PrettyPrinter(*args, stream=stream, **named).pprint(object)

| def _plain(place):
|     return lambda object: PrettyPrinter().format(object, «», None, 0)[place]
| saferepr, isreadable, isrecursive = (_plain(0), _plain(1), _plain(2))

| class _Key:

|     def __init__(self, held):
|         self.held = held

|     def __lt__(self, other):
|         try:
|             return self.held < other.held
|         except TypeError:
|             a, b = [(str(type(k.held)), id(k.held)) for k in (self, other)]
|             return a < b

| def _named(f):

|     def laid(self, x, indent, after, seen, level):
|         name = type(x).__name__ + '('
|         return name + f(self, x, indent + len(name), after + 1, seen, level) + ')'
|     return laid

| class PrettyPrinter:

|     def __init__(self, indent=1, width=80, depth=None, stream=None, *, compact=False,
|         sort_dicts=True, underscore_numbers=False):
|         self._step, self._width, self._depth = (int(indent), int(width), depth)
|         if self._step < 0:
|             raise ValueError('indent must be >= 0')
|         if depth is not None and depth <= 0:
|             raise ValueError('depth must be > 0')
|         if not self._width:
|             raise ValueError('width must be != 0')
|         self._stream, self._compact = (_sys.stdout if stream is None else stream, compact)
|         self._sorted, self._underscored = (sort_dicts, underscore_numbers)

|     def pprint(self, object):
|         if self._stream is not None:
|             self._stream.write(self.pformat(object) + '\n')

|     def pformat(self, object):
|         return self._laid(object, 0, 0, «», 0)

|     def _pairs(self, x):
|         if self._sorted:
|             return sorted(x.items(), key=lambda p: (_Key(p[0]), _Key(p[1])))
|         return x.items()

|     def format(self, object, context, maxlevels, level):
|         r = getattr(type(object), '__repr__', None)
|         form = «dict.__repr__: '«%s»', list.__repr__: '[%s]', tuple.__repr__: '(%s)'».get(r)
|         if form is None:
|             text = '%s' % format(object,
|                 '_d') if self._underscored and r is int.__repr__ else repr(object)
|             return (text, bool(text) and (not text.startswith('<')), False)
|         if not object:
|             return (form % '', True, False)
|         if form[0] == '(' and len(object) == 1:
|             form = '(%s,)'
|         place = id(object)
|         if maxlevels and level >= maxlevels:
|             return (form % '...', False, place in context)
|         if place in context:
|             return (_recursion(object), False, True)
|         inner = «**context, place: 1»
|         found = [[self.format(v, inner, maxlevels, level + 1) for v in row]
|             for row in (self._pairs(object) if form[0] == '«' else [(v,) for v in object])]
|         return (form % ', '.join([': '.join([t for t, _, _ in row]) for row in found]), all([r
|             for row in found for _, r, _ in row]), any([r for row in found for _, _, r in row]))

|     def _text(self, x, seen, level):
|         return self.format(x, dict(seen), self._depth, level)[0]

|     def _laid(self, x, indent, after, seen, level):
|         if id(x) in seen:
|             return _recursion(x)
|         text = self._text(x, seen, level)
|         if len(text) <= self._width - indent - after:
|             return text
|         way = self._ways.get(type(x).__repr__)
|         if way:
|             way = way if len(x.__dict__ if type(x).__repr__ is SimpleNamespace.__repr__
|                 else x) else None
|         elif _is_dataclass(x) and (not isinstance(x, type)) and hasattr(x.__repr__,
|             '_of_fields'):
|             way = PrettyPrinter._fields
|         return way(self, x, indent, after, «**seen, id(x): 1», level + 1) if way else text

|     def _rows(self, rows, indent, after, seen, level, named=False):
|         last = len(rows) - 1
|         return (',\n' + ' ' * indent).join([head + ('...' if named and id(v) in seen
|             else self._laid(v, indent + len(head), after if i == last else 1, seen, level))
|             for i, (head, v) in enumerate(rows)])

|     def _braced(self, pairs, indent, after, seen, level):
|         return '«' + ' ' * (self._step - 1) + self._rows([(self._text(k, seen, level) + ': ',
|             v) for k, v in pairs], indent + self._step, after + 1, seen, level) + '»'

|     def _items(self, begin, items, end, indent, after, seen, level):
|         indent, after = (indent + self._step, after + len(end))
|         room = full = self._width - indent + 1
|         out, comma = (begin + ' ' * (self._step - 1), '')
|         for i, x in enumerate(items):
|             last = i == len(items) - 1
|             if last:
|                 room, full = (room - after, full - after)
|             if self._compact:
|                 text = self._text(x, seen, level)
|                 if room < len(text) + 2:
|                     room, comma = (full, comma and ',\n' + ' ' * indent)
|                 if room >= len(text) + 2:
|                     room -= len(text) + 2
|                     out, comma = (out + comma + text, ', ')
|                     continue
|             out += comma + self._laid(x, indent, after if last else 1, seen, level)
|             comma = ',\n' + ' ' * indent
|         return out + end

|     def _dict(self, x, *rest):
|         return self._braced(self._pairs(x), *rest)

|     def _list(self, x, *rest):
|         return self._items('[', x, ']', *rest)

|     def _tuple(self, x, *rest):
|         return self._items('(', x, ',)' if len(x) == 1 else ')', *rest)

|     def _set(self, x, indent, *rest):
|         name = '' if type(x) is set else type(x).__name__ + '('
|         return self._items(name + '«', sorted(x, key=_Key), '»)' if name else '»', indent
|             + len(name), *rest)

|     def _str(self, x, indent, after, seen, level):
|         top = level == 1
|         indent, after, chunks, lines = (indent + top, after + top, [], x.splitlines(True))
|         room = self._width - indent
|         for i, line in enumerate(lines):
|             last, current = (i == len(lines) - 1, '')
|             words = [line]
|             if len(repr(line)) > room - after * last:
|                 words = _findall('\\S*\\s*', line)[:-1]
|             for j, word in enumerate(words):
|                 end = last and j == len(words) - 1
|                 if len(repr(current + word)) > room - after * end and current:
|                     chunks.append(repr(current))
|                     current = ''
|                 current += word
|             chunks.append(repr(current))
|         return chunks[0] if len(chunks) == 1 else self._parts(chunks, indent, top)

|     def _bytes(self, x, indent, after, seen, level):
|         if len(x) <= 4:
|             return repr(x)
|         top, chunks, current = (level == 1, [], b'')
|         indent, after = (indent + top, after + top)
|         for i in range(0, len(x), 4):
|             room = self._width - indent - (after if i + 4 > len(x) else 0)
|             if len(repr(current + x[i:i + 4])) > room and current:
|                 chunks.append(repr(current))
|                 current = b''
|             current += x[i:i + 4]
|         return self._parts(chunks + [repr(current)], indent, top)

|     @_named
|     def _bytearray(self, x, indent, after, seen, level):
|         return self._bytes(bytes(x), indent, after, seen, level + 1)

|     @_named
|     def _copied(self, x, *rest):
|         return self._laid(x.copy(), *rest)

|     @_named
|     def _ordered(self, x, *rest):
|         return self._laid(list(x.items()), *rest)

|     @_named
|     def _counted(self, x, *rest):
|         return self._braced(x.most_common(), *rest)

|     @_named
|     def _default(self, x, indent, after, seen, level):
|         return '%s,\n%s%s' % (self._text(x.default_factory, seen, level), ' ' * indent,
|             self._dict(x, indent, after, seen, level))

|     @_named
|     def _chain(self, x, *rest):
|         return self._rows([('', m) for m in x.maps], *rest)

|     @_named
|     def _deque(self, x, indent, after, seen, level):
|         if x.maxlen is None:
|             return self._items('[', x, ']', indent, after, seen, level)
|         return '%s,\n%smaxlen=%s' % (self._items('[', x, ']', indent, 1, seen, level),
|             ' ' * indent, x.maxlen)

|     def _space(self, x, indent, after, seen, level):
|         name = ('namespace' if type(x) is SimpleNamespace else type(x).__name__) + '('
|         return name + self._rows([(k + '=', v) for k, v in x.__dict__.items()], indent
|             + len(name), after, seen, level, True) + ')'

|     def _user(self, x, indent, after, seen, level):
|         return self._laid(x.data, indent, after, seen, level - 1)
|     _ways = «k.__repr__: way for way, *kinds in ((_dict, dict), (_list, list), (_tuple, tuple),
|         (_set, set, frozenset), (_str, str), (_bytes, bytes), (_bytearray, bytearray), (_copied,
|         MappingProxyType), (_ordered, OrderedDict), (_counted, Counter), (_default,
|         defaultdict), (_chain, ChainMap), (_deque, deque), (_space, SimpleNamespace), (_user,
|         UserDict, UserList, UserString)) for k in kinds»
"#

/-- The module for tables with names in texts. -/
def csvText : String := r#"
| QUOTE_MINIMAL, QUOTE_ALL, QUOTE_NONNUMERIC, QUOTE_NONE = range(4)
| __version__, _dialects, _limit = ('1.0', «», [131072])
| _usual = dict(delimiter=',', doublequote=True, escapechar=None, lineterminator='\r\n',
|     quotechar='"', quoting=0, skipinitialspace=False, strict=False)

| class Error(Exception):
|     pass

| class _Fixed:
|     __slots__ = tuple(_usual)

|     def __new__(cls, dialect=None, **options):
|         for name in options:
|             if name not in _usual:
|                 raise TypeError("'%s' is an invalid keyword argument for this function" % name)
|         if isinstance(dialect, str):
|             dialect = get_dialect(dialect)
|         if isinstance(dialect, _Fixed) and (not options):
|             return dialect
|         self = object.__new__(cls)
|         given = «**«n: getattr(dialect, n) for n in _usual if hasattr(dialect, n)», **options»
|         if given.get('quotechar', '') is None:
|             given.setdefault('quoting', QUOTE_NONE)
|         for name, v in «**_usual, **given».items():
|             if isinstance(_usual[name], bool):
|                 v = bool(v)
|             elif name == 'lineterminator':
|                 if v is not None and (not isinstance(v, str)):
|                     raise TypeError('"lineterminator" must be a string')
|             elif name == 'quoting':
|                 if type(v) is not int:
|                     raise TypeError('"quoting" must be an integer')
|             elif v is not None or name == 'delimiter':
|                 if not isinstance(v, str):
|                     raise TypeError('"%s" must be string%s, not %s' % (name, ''
|                         if name[0] == 'd' else ' or None', type(v).__name__))
|                 if len(v) != 1:
|                     raise TypeError('"%s" must be a 1-character string' % name)
|             object.__setattr__(self, name, v)
|         if not 0 <= self.quoting <= 3:
|             raise TypeError('bad "quoting" value')
|         if self.quoting != QUOTE_NONE and self.quotechar is None:
|             raise TypeError('quotechar must be set if quoting enabled')
|         if self.lineterminator is None:
|             raise TypeError('lineterminator must be set')
|         return self

| class Dialect:
|     _name, _valid = ('', False)
|     delimiter = quotechar = escapechar = doublequote = skipinitialspace = lineterminator = None
|     quoting = None

| def register_dialect(name, dialect=None, **options):
|     if not isinstance(name, str):
|         raise TypeError('dialect name must be a string')
|     _dialects[name] = _Fixed(dialect, **options)

| def get_dialect(name):
|     if name not in _dialects:
|         raise Error('unknown dialect')
|     return _dialects[name]

| class excel(Dialect):
|     delimiter, quotechar, doublequote, skipinitialspace = (',', '"', True, False)
|     lineterminator, quoting = ('\r\n', QUOTE_MINIMAL)

| class excel_tab(excel):
|     delimiter = '\t'

| class unix_dialect(excel):
|     lineterminator, quoting = ('\n', QUOTE_ALL)
| for _name, _kind in (('excel', excel), ('excel-tab', excel_tab), ('unix', unix_dialect)):
|     register_dialect(_name, _kind)

| class Reader:

|     def __init__(self, lines, dialect=None, **options):
|         self._lines, self.dialect, self.line_num = (iter(lines), _Fixed(dialect, **options), 0)

|     def __iter__(self):
|         return self

|     def _save(self):
|         text = ''.join(self._field)
|         self._row.append(float(text) if self._numeric else text)
|         self._field, self._numeric = ([], False)

|     def _add(self, c):
|         if len(self._field) >= _limit[0]:
|             raise Error('field larger than field limit (%d)' % _limit[0])
|         self._field.append(c)

|     def __next__(self):
|         d, state, self._row, self._field, self._numeric = (self.dialect, 'record', [], [],
|             False)
|         quote, escape = (None if d.quoting == QUOTE_NONE else d.quotechar, d.escapechar)
|         while True:
|             try:
|                 line = next(self._lines)
|             except StopIteration:
|                 if not self._field and state != 'quoted':
|                     raise
|                 if d.strict:
|                     raise Error('unexpected end of data') from None
|                 self._save()
|                 return self._row
|             if not isinstance(line, str):
|                 raise Error('iterator should return strings, not %s (the file should be opened '
|      'in text mode)' % type(line).__name__)
|             self.line_num += 1
|             for c in [*line, '']:
|                 ends = c in '\r\n'
|                 if not c and state in ('record', 'after'):
|                     continue
|                 if state == 'record':
|                     state = 'eat' if ends else 'start'
|                 elif state == 'after':
|                     state = 'field'
|                 if ends and state in ('start', 'field', 'quote'):
|                     self._save()
|                     state = 'eat' if c else 'record'
|                 elif state == 'eat':
|                     if not ends:
|                         raise Error('new-line character seen in unquoted field - do you need to '
|        "open the file with newline=''?")
|                     state = state if c else 'record'
|                 elif state == 'quoted':
|                     if c == escape:
|                         state = 'quoted escape'
|                     elif c == quote:
|                         state = 'quote' if d.doublequote else 'field'
|                     elif c:
|                         self._add(c)
|                 elif state == 'quoted escape' or (state == 'quote' and c == quote):
|                     self._add(c or '\n')
|                     state = 'quoted'
|                 elif state == 'escaped':
|                     self._add(c or '\n')
|                     state = 'after' if ends and c else 'field'
|                 elif state == 'start' and c == quote:
|                     state = 'quoted'
|                 elif state != 'quote' and c == escape:
|                     state = 'escaped'
|                 elif state == 'start' and c == ' ' and d.skipinitialspace:
|                     pass
|                 elif c == d.delimiter:
|                     self._save()
|                     state = 'start'
|                 elif state == 'quote' and d.strict:
|                     raise Error("'%s' expected after '%s'" % (d.delimiter, quote))
|                 else:
|                     self._numeric |= state == 'start' and d.quoting == QUOTE_NONNUMERIC
|                     self._add(c)
|                     state = 'field'
|             if state == 'record':
|                 return self._row

| class Writer:

|     def __init__(self, file, dialect=None, **options):
|         self.dialect, self._write = (_Fixed(dialect, **options), getattr(file, 'write', None))
|         if not callable(self._write):
|             raise TypeError('argument 1 must have a "write" method')

|     def _shown(self, text, quoted):
|         d, out = (self.dialect, [])
|         for c in text:
|             if c in (d.delimiter, d.escapechar, d.quotechar) or c in d.lineterminator:
|                 double = c == d.quotechar and d.doublequote
|                 if d.quoting == QUOTE_NONE or c == d.escapechar or (c == d.quotechar
|                     and (not double)):
|                     if d.escapechar is None:
|                         raise Error('need to escape, but no escapechar set')
|                     out.append(d.escapechar)
|                 else:
|                     quoted = True
|                     if double:
|                         out.append(c)
|             out.append(c)
|         text = ''.join(out)
|         return d.quotechar + text + d.quotechar if quoted else text

|     def writerow(self, row):
|         d = self.dialect
|         try:
|             row = list(row) if isinstance(row, (list, tuple)) else list(iter(row))
|         except TypeError:
|             if hasattr(row, '__iter__'):
|                 raise
|             raise Error('iterable expected, not %s' % type(row).__name__) from None
|         parts = [self._shown('' if v is None else v if isinstance(v, str) else str(v),
|             d.quoting == QUOTE_ALL or (d.quoting == QUOTE_NONNUMERIC and (not (isinstance(v,
|             (int, float, complex)) or any([hasattr(v, n) for n in ('__index__', '__int__',
|             '__float__')]))))) for v in row]
|         line = d.delimiter.join(parts)
|         if parts and (not line):
|             if d.quoting == QUOTE_NONE:
|                 raise Error('single empty field record must be quoted')
|             line = d.quotechar * 2
|         return self._write(line + d.lineterminator)

| def _maker(kind):

|     def make(*args, **options):
|         if not args:
|             raise TypeError(' expected at least 1 argument, got 0')
|         return kind(*args, **options)
|     return make
| reader, writer = (_maker(Reader), _maker(Writer))
| for _kind, _name in ((Reader, 'reader'), (Writer, 'writer'), (_Fixed, 'Dialect'), (Error,
|     'Error')):
|     _kind.__module__, _kind.__name__, _kind.__qualname__ = ('_csv', _name, _name)
|     setattr(_kind, '.title', '_csv.' + _name)

| class DictWriter:

|     def __init__(self, f, fieldnames, restval='', extrasaction='raise', dialect='excel', *args,
|         **kwds):
|         if extrasaction.lower() not in ('raise', 'ignore'):
|             raise ValueError("extrasaction (%s) must be 'raise' or 'ignore'" % extrasaction)
|         self.fieldnames, self.restval, self.extrasaction = (fieldnames, restval, extrasaction)
|         self.writer = writer(f, dialect, *args, **kwds)

|     def writeheader(self):
|         return self.writerow(dict(zip(self.fieldnames, self.fieldnames)))

|     def _values(self, row):
|         wrong = row.keys() - self.fieldnames if self.extrasaction == 'raise' else ()
|         if wrong:
|             raise ValueError('dict contains fields not in fieldnames: ' + ', '.join(map(repr,
|                 wrong)))
|         return [row.get(key, self.restval) for key in self.fieldnames]

|     def writerow(self, rowdict):
|         return self.writer.writerow(self._values(rowdict))
"#

def difflibText : String := r#"
| from collections import Counter as _Counter, namedtuple as _namedtuple
| from heapq import nlargest as _nlargest
| __all__ = ('get_close_matches ndiff restore SequenceMatcher Differ IS_CHARACTER_JUNK '
|  'IS_LINE_JUNK context_diff unified_diff diff_bytes Match').split()
| Match = _namedtuple('Match', 'a b size')

| def _share(found, length):
|     return 2.0 * found / length if length else 1.0

| class SequenceMatcher:

|     def __init__(self, isjunk=None, a='', b='', autojunk=True):
|         self.isjunk, self.autojunk = (isjunk, autojunk)
|         self.a = self.b = None
|         self.set_seqs(a, b)

|     def set_seqs(self, a, b):
|         self.set_seq1(a)
|         self.set_seq2(b)

|     def set_seq1(self, a):
|         if a is not self.a:
|             self.a, self.matching_blocks, self.opcodes = (a, None, None)

|     def set_seq2(self, b):
|         if b is self.b:
|             return
|         self.b, self.matching_blocks, self.opcodes = (b, None, None)
|         self.b2j = places = «»
|         for i, x in enumerate(b):
|             places.setdefault(x, []).append(i)
|         self.bjunk = «x for x in places if self.isjunk and self.isjunk(x)»
|         for x in self.bjunk:
|             del places[x]
|         most = len(b) // 100 + 1 if self.autojunk and len(b) >= 200 else len(b)
|         self.bpopular = «x for x, found in places.items() if len(found) > most»
|         for x in self.bpopular:
|             del places[x]

|     def find_longest_match(self, alo=0, ahi=None, blo=0, bhi=None):
|         a, b, places, junk = (self.a, self.b, self.b2j, self.bjunk)
|         ahi, bhi = (len(a) if ahi is None else ahi, len(b) if bhi is None else bhi)
|         i, j, n, runs = (alo, blo, 0, «»)
|         for x in range(alo, ahi):
|             new = «»
|             for y in places.get(a[x], ()):
|                 if y >= bhi:
|                     break
|                 if y >= blo:
|                     k = new[y] = runs.get(y - 1, 0) + 1
|                     if k > n:
|                         i, j, n = (x - k + 1, y - k + 1, k)
|             runs = new
|         for extra in (False, True):
|             while i > alo and j > blo and (a[i - 1] == b[j - 1]) and ((b[j - 1] in junk) == extra):
|                 i, j, n = (i - 1, j - 1, n + 1)
|             while i + n < ahi and j + n < bhi and (a[i + n] == b[j + n]) and ((b[j
|                 + n] in junk) == extra):
|                 n += 1
|         return Match(i, j, n)

|     def get_matching_blocks(self):
|         if self.matching_blocks is None:
|             todo, found, joined = ([(0, len(self.a), 0, len(self.b))], [], [])
|             while todo:
|                 alo, ahi, blo, bhi = todo.pop()
|                 i, j, n = self.find_longest_match(alo, ahi, blo, bhi)
|                 if n:
|                     found.append((i, j, n))
|                     if alo < i and blo < j:
|                         todo.append((alo, i, blo, j))
|                     if i + n < ahi and j + n < bhi:
|                         todo.append((i + n, ahi, j + n, bhi))
|             for i, j, n in sorted(found):
|                 last = joined[-1] if joined else (0, 0, 0)
|                 if last[2] and last[0] + last[2] == i and (last[1] + last[2] == j):
|                     last[2] += n
|                 else:
|                     joined.append([i, j, n])
|             self.matching_blocks = [Match(*m) for m in joined + [(len(self.a), len(self.b), 0)]]
|         return self.matching_blocks

|     def get_opcodes(self):
|         if self.opcodes is None:
|             i, j, self.opcodes = (0, 0, [])
|             for a, b, n in self.get_matching_blocks():
|                 if i < a or j < b:
|                     self.opcodes.append(('replace' if i < a and j < b else 'delete' if i < a
|                         else 'insert', i, a, j, b))
|                 i, j = (a + n, b + n)
|                 if n:
|                     self.opcodes.append(('equal', a, i, b, j))
|         return self.opcodes

|     def get_grouped_opcodes(self, n=3):
|         codes, group = (self.get_opcodes() or [('equal', 0, 1, 0, 1)], [])
|         for place in (0, -1):
|             tag, i, i2, j, j2 = codes[place]
|             if tag == 'equal':
|                 codes[place] = (tag, i, min(i2, i + n), j, min(j2, j + n)) if place else (tag,
|                     max(i, i2 - n), i2, max(j, j2 - n), j2)
|         for tag, i, i2, j, j2 in codes:
|             if tag == 'equal' and i2 - i > 2 * n:
|                 yield (group + [(tag, i, min(i2, i + n), j, min(j2, j + n))])
|                 group, i, j = ([], max(i, i2 - n), max(j, j2 - n))
|             group.append((tag, i, i2, j, j2))
|         if group and (not (len(group) == 1 and group[0][0] == 'equal')):
|             yield group

|     def ratio(self):
|         return _share(sum([m[2] for m in self.get_matching_blocks()]), len(self.a)
|             + len(self.b))

|     def quick_ratio(self):
|         left, found = (_Counter(self.b), 0)
|         for x in self.a:
|             found += left[x] > 0
|             left[x] -= 1
|         return _share(found, len(self.a) + len(self.b))

|     def real_quick_ratio(self):
|         return _share(min(len(self.a), len(self.b)), len(self.a) + len(self.b))

|     def _over(self, least, strict=False):
|         for f in (self.real_quick_ratio, self.quick_ratio, self.ratio):
|             if f() < least or (strict and f() == least):
|                 return False
|         return True

| def get_close_matches(word, possibilities, n=3, cutoff=0.6):
|     if not n > 0:
|         raise ValueError('n must be > 0: %r' % (n,))
|     if not 0.0 <= cutoff <= 1.0:
|         raise ValueError('cutoff must be in [0.0, 1.0]: %r' % (cutoff,))
|     found, s = ([], SequenceMatcher(None, '', word))
|     for x in possibilities:
|         s.set_seq1(x)
|         if s._over(cutoff):
|             found.append((s.ratio(), x))
|     return [x for _, x in _nlargest(n, found)]

| class Differ:
|     pass

| def _groups(a, b, names, dates, n, end, marks):
|     for lines in (a, b):
|         if lines and (not isinstance(lines[0], str)):
|             raise TypeError('lines to compare must be str, not %s (%r)'
|                 % (type(lines[0]).__name__, lines[0]))
|     for text in names + dates + (end,):
|         if not isinstance(text, str):
|             raise TypeError('all arguments must be str, not: %r' % (text,))
|     for i, group in enumerate(SequenceMatcher(None, a, b).get_grouped_opcodes(n)):
|         yield ([] if i else ['%s %s%s%s' % (mark, name, '\t' + date if date else '', end)
|             for mark, name, date in zip(marks, names, dates)], group, (group[0][1],
|             group[-1][2]), (group[0][3], group[-1][4]))

| def unified_diff(a, b, fromfile='', tofile='', fromfiledate='', tofiledate='', n=3,
|     lineterm='\n'):

|     def span(start, stop):
|         n = stop - start
|         return '%d' % stop if n == 1 else '%d,%d' % (start + (n > 0), n)
|     for heads, group, old, new in _groups(a, b, (fromfile, tofile), (fromfiledate, tofiledate),
|         n, lineterm, ('---', '+++')):
|         yield from heads
|         yield ('@@ -%s +%s @@%s' % (span(*old), span(*new), lineterm))
|         for tag, i, i2, j, j2 in group:
|             if tag != 'equal':
|                 yield from ['-' + x for x in a[i:i2]]
|                 yield from ['+' + x for x in b[j:j2]]
|             else:
|                 yield from [' ' + x for x in a[i:i2]]
"#

end Flowboard.Script.Prelude
