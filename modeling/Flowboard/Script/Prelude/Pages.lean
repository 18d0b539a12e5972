/-! Modules for text in pages, for names of characters in pages, for documents with marks, for
trees of marks, for documents with marks as trees, in the language of scripts. -/
namespace Flowboard.Script.Prelude

def htmlText : String := r#"
| _re = __import__('re')
| from html.entities import html5 as _html5
| __all__ = ['escape', 'unescape']

| def escape(s, quote=True):
|     s = s.replace('&', '&amp;')
|     s = s.replace('<', '&lt;')
|     s = s.replace('>', '&gt;')
|     if quote:
|         s = s.replace('"', '&quot;')
|         s = s.replace("'", '&#x27;')
|     return s
| _replaced = «0: '�', 13: '\r'»
| for _n in range(128, 160):
|     _replaced[_n] = bytes([_n]).decode('cp1252', 'ignore') or chr(_n)

| def _is_invalid(n):
|     return 1 <= n <= 8 or n == 11 or 14 <= n <= 31 or (127 <= n <= 159) or (64976 <= n <= 65007) or (n & 65534 == 65534)

| def _replace_charref(s):
|     s = s.group(1)
|     if s[0] == '#':
|         if s[1] in 'xX':
|             num = int(s[2:].rstrip(';'), 16)
|         else:
|             num = int(s[1:].rstrip(';'))
|         if num in _replaced:
|             return _replaced[num]
|         if 55296 <= num <= 57343 or num > 1114111:
|             return '�'
|         if _is_invalid(num):
|             return ''
|         return chr(num)
|     else:
|         if s in _html5:
|             return _html5[s]
|         for x in range(len(s) - 1, 1, -1):
|             if s[:x] in _html5:
|                 return _html5[s[:x]] + s[x:]
|         else:
|             return '&' + s
| _charref = _re.compile('&(#[0-9]+;?|#[xX][0-9a-fA-F]+;?|[^\\t\\n\\f <&#;]«1,32»;?)')

| def unescape(s):
|     if '&' not in s:
|         return s
|     return _charref.sub(_replace_charref, s)
"#

/-- The module for names of characters in pages. -/
def htmlEntitiesText : String := r#"
| _names = ('AElig* c6 Aacute* c1 Acirc* c2 Agrave* c0 Alpha 391 Aring* c5 Atilde* c3 Auml* c4 Beta '
|  '392 Ccedil* c7 Chi 3a7 Dagger 2021 Delta 394 ETH* d0 Eacute* c9 Ecirc* ca Egrave* c8 '
|  'Epsilon 395 Eta 397 Euml* cb Gamma 393 Iacute* cd Icirc* ce Igrave* cc Iota 399 Iuml* cf '
|  'Kappa 39a Lambda 39b Mu 39c Ntilde* d1 Nu 39d OElig 152 Oacute* d3 Ocirc* d4 Ograve* d2 '
|  'Omega 3a9 Omicron 39f Oslash* d8 Otilde* d5 Ouml* d6 Phi 3a6 Pi 3a0 Prime 2033 Psi 3a8 '
|  'Rho 3a1 Scaron 160 Sigma 3a3 THORN* de Tau 3a4 Theta 398 Uacute* da Ucirc* db Ugrave* d9 '
|  'Upsilon 3a5 Uuml* dc Xi 39e Yacute* dd Yuml 178 Zeta 396 aacute* e1 acirc* e2 acute* b4 '
|  'aelig* e6 agrave* e0 alefsym 2135 alpha 3b1 amp* 26 and 2227 ang 2220 aring* e5 asymp '
|  '2248 atilde* e3 auml* e4 bdquo 201e beta 3b2 brvbar* a6 bull 2022 cap 2229 ccedil* e7 '
|  'cedil* b8 cent* a2 chi 3c7 circ 2c6 clubs 2663 cong 2245 copy* a9 crarr 21b5 cup 222a '
|  'curren* a4 dArr 21d3 dagger 2020 darr 2193 deg* b0 delta 3b4 diams 2666 divide* f7 '
|  'eacute* e9 ecirc* ea egrave* e8 empty 2205 emsp 2003 ensp 2002 epsilon 3b5 equiv 2261 '
|  'eta 3b7 eth* f0 euml* eb euro 20ac exist 2203 fnof 192 forall 2200 frac12* bd frac14* bc '
|  'frac34* be frasl 2044 gamma 3b3 ge 2265 gt* 3e hArr 21d4 harr 2194 hearts 2665 hellip '
|  '2026 iacute* ed icirc* ee iexcl* a1 igrave* ec image 2111 infin 221e int 222b iota 3b9 '
|  'iquest* bf isin 2208 iuml* ef kappa 3ba lArr 21d0 lambda 3bb lang 2329 laquo* ab larr '
|  '2190 lceil 2308 ldquo 201c le 2264 lfloor 230a lowast 2217 loz 25ca lrm 200e lsaquo 2039 '
|  'lsquo 2018 lt* 3c macr* af mdash 2014 micro* b5 middot* b7 minus 2212 mu 3bc nabla 2207 '
|  'nbsp* a0 ndash 2013 ne 2260 ni 220b not* ac notin 2209 nsub 2284 ntilde* f1 nu 3bd '
|  'oacute* f3 ocirc* f4 oelig 153 ograve* f2 oline 203e omega 3c9 omicron 3bf oplus 2295 or '
|  '2228 ordf* aa ordm* ba oslash* f8 otilde* f5 otimes 2297 ouml* f6 para* b6 part 2202 '
|  'permil 2030 perp 22a5 phi 3c6 pi 3c0 piv 3d6 plusmn* b1 pound* a3 prime 2032 prod 220f '
|  'prop 221d psi 3c8 quot* 22 rArr 21d2 radic 221a rang 232a raquo* bb rarr 2192 rceil 2309 '
|  'rdquo 201d real 211c reg* ae rfloor 230b rho 3c1 rlm 200f rsaquo 203a rsquo 2019 sbquo '
|  '201a scaron 161 sdot 22c5 sect* a7 shy* ad sigma 3c3 sigmaf 3c2 sim 223c spades 2660 sub '
|  '2282 sube 2286 sum 2211 sup 2283 sup1* b9 sup2* b2 sup3* b3 supe 2287 szlig* df tau 3c4 '
|  'there4 2234 theta 3b8 thetasym 3d1 thinsp 2009 thorn* fe tilde 2dc times* d7 trade 2122 '
|  'uArr 21d1 uacute* fa uarr 2191 ucirc* fb ugrave* f9 uml* a8 upsih 3d2 upsilon 3c5 uuml* '
|  'fc weierp 2118 xi 3be yacute* fd yen* a5 yuml* ff zeta 3b6 zwj 200d zwnj 200c apos+ 27 '
|  'AMP*+ 26 COPY*+ a9 GT*+ 3e LT*+ 3c QUOT*+ 22 REG*+ ae check+ 2713 cross+ 2717 star+ 2606 '
|  'starf+ 2605 phone+ 260e male+ 2642 female+ 2640 lbrace+ 7b rbrace+ 7d lcub+ 7b rcub+ 7d '
|  'lbrack+ 5b rbrack+ 5d lsqb+ 5b rsqb+ 5d lpar+ 28 rpar+ 29 excl+ 21 num+ 23 dollar+ 24 '
|  'percnt+ 25 ast+ 2a plus+ 2b comma+ 2c period+ 2e sol+ 2f colon+ 3a semi+ 3b equals+ 3d '
|  'quest+ 3f commat+ 40 bsol+ 5c Hat+ 5e lowbar+ 5f grave+ 60 vert+ 7c Tab+ 9 NewLine+ a '
|  'hyphen+ 2010 dash+ 2010 bigstar+ 2605 checkmark+ 2713 half+ bd leq+ 2264 geq+ 2265 '
|  'rightarrow+ 2192 leftarrow+ 2190 uparrow+ 2191 downarrow+ 2193 approx+ 2248 caron+ 2c7 '
|  'breve+ 2d8 dot+ 2d9 Amacr+ 100 amacr+ 101 Ccaron+ 10c ccaron+ 10d Zcaron+ 17d zcaron+ '
|  '17e ')
| html5 = «»
| name2codepoint = «»
| for _n, _v in zip(*[iter(_names.split())] * 2):
|     _t = _n.rstrip('*+')
|     html5[_t + ';'] = chr(int(_v, 16))
|     if '*' in _n:
|         html5[_t] = chr(int(_v, 16))
|     if '+' not in _n:
|         name2codepoint[_t] = int(_v, 16)
| codepoint2name = «_v: _n for _n, _v in name2codepoint.items()»
| entitydefs = «_n: chr(_v) for _n, _v in name2codepoint.items()»
"#

/-- The module for documents with marks. -/
def xmlText : String := r#"
| pass
"#

/-- The module for trees of marks. -/
def xmlEtreeText : String := r#"
| pass
"#

/-- The module for documents with marks as trees. -/
def xmlEtreeElementTreeText : String := r#"
| import sys, re, io

| class Element:

|     def __init__(self, *args, **extra):
|         if not 0 < len(args) < 3 and 'tag' not in extra:
|             raise TypeError('Element() takes at %s (%d given)' % ('most 2 arguments' if args
|                 else 'least 1 argument', len(args)))
|         tag = args[0] if args else extra.pop('tag')
|         attrib = args[1] if args[1:] else extra.pop('attrib', «»)
|         if not isinstance(attrib, dict):
|             raise TypeError('%s must be dict, not %s' % ('Element() argument 2' if args[1:]
|                 else 'attrib', type(attrib).__name__))
|         self.tag = tag
|         self.attrib = «**attrib, **extra»
|         self.text = self.tail = None
|         self._children = []

|     def __len__(self):
|         return len(self._children)

|     def _index(self, index, text):
|         if not hasattr(type(index), '__index__'):
|             raise TypeError('element indices must be integers')
|         if not -len(self._children) <= index < len(self._children):
|             raise IndexError(text)
|         return index

|     def __getitem__(self, index):
|         if isinstance(index, slice):
|             return self._children[index]
|         return self._children[self._index(index, 'child index out of range')]

|     def append(self, subelement):
|         self._check(subelement, 'append() argument')
|         self._children.append(subelement)

|     def _check(self, e, place):
|         if not isinstance(e, Element):
|             raise TypeError('%s must be xml.etree.ElementTree.Element, not %s' % (place,
|                 type(e).__name__))

|     def find(self, path, namespaces=None):
|         return next(self.iterfind(path, namespaces), None)

|     def findtext(self, path, default=None, namespaces=None):
|         found = self.find(path, namespaces)
|         return default if found is None else '' if found.text is None else found.text

|     def findall(self, path, namespaces=None):
|         return list(self.iterfind(path, namespaces))

|     def items(self):
|         return list(self.attrib.items())

|     def iter(self, tag=None):
|         if tag == '*':
|             tag = None
|         if tag is None or self.tag == tag:
|             yield self
|         for e in self._children:
|             yield from e.iter(tag)
| setattr(Element, '.title', 'xml.etree.ElementTree.Element')

| def Comment(text=None):
|     element = Element(Comment)
|     element.text = text
|     return element

| def ProcessingInstruction(target, text=None):
|     element = Element(ProcessingInstruction)
|     element.text = target + ' ' + text if text else target
|     return element
| PI = ProcessingInstruction

| class QName:
|     pass

| def _plain(name):
|     return name.text if isinstance(name, QName) else name

| class ElementTree:

|     def __init__(self, element=None, file=None):
|         self._root = element
|         if file:
|             self.parse(file)
|     find, findtext, findall = (Element.find, Element.findtext, Element.findall)

|     def write(self, file_or_filename, encoding=None, xml_declaration=None,
|         default_namespace=None, method=None, *, short_empty_elements=True):
|         method = method or 'xml'
|         if method not in ('xml', 'html', 'text'):
|             raise ValueError('unknown method %r' % method)
|         encoding = encoding or 'us-ascii'
|         plain = encoding.lower() == 'unicode'
|         named = hasattr(file_or_filename, 'write')
|         shown = 'utf-8' if plain and (not named) else getattr(file_or_filename, 'encoding',
|             None) or 'utf-8' if plain else encoding
|         out = []
|         if method == 'xml' and (xml_declaration or (xml_declaration is None and (not plain)
|             and (shown.lower() not in ('utf-8', 'us-ascii')))):
|             out.append("<?xml version='1.0' encoding='%s'?>\n" % shown)
|         if method == 'text':
|             out.extend(self._root.itertext())
|             out.append(self._root.tail or '')
|         else:
|             qnames, namespaces = _namespaces(self._root, default_namespace)
|             _serialize(method == 'html', out.append, self._root, qnames, namespaces,
|                 short_empty_elements)
|         text = ''.join(out)
|         if not named:
|             with open(file_or_filename, 'w', encoding=shown,
|                 errors='xmlcharrefreplace') as file:
|                 file.write(text)
|         else:
|             file_or_filename.write(text if plain else text.encode(encoding,
|                 'xmlcharrefreplace'))

| def _namespaces(root, default):
|     qnames = «None: None»
|     namespaces = «default: ''» if default else «»

|     def add(name):
|         name = _plain(name)
|         if name in qnames:
|             return
|         if name[:1] != '«':
|             if default:
|                 raise ValueError('cannot use non-qualified names with default_namespace option')
|             qnames[name] = name
|             return
|         uri, tag = name[1:].rsplit('»', 1)
|         mark = namespaces.get(uri)
|         if mark is None:
|             mark = _namespace_map.get(uri, 'ns%d' % len(namespaces))
|             if mark != 'xml':
|                 namespaces[uri] = mark
|         qnames[name] = mark + ':' + tag if mark else tag
|     for elem in root.iter():
|         if isinstance(elem.tag, (QName, str)):
|             add(elem.tag)
|         elif elem.tag not in (None, Comment, PI):
|             _unfit(elem.tag)
|         for key, value in elem.items():
|             if not isinstance(key, (QName, str)):
|                 _unfit(key)
|             add(key)
|             if isinstance(value, QName):
|                 add(value)
|         if isinstance(elem.text, QName):
|             add(elem.text)
|     return (qnames, namespaces)
| HTML_EMPTY = set('area base basefont br col embed frame hr img input isindex link meta param '
|  'source track wbr'.split())

| def _serialize(html, write, elem, qnames, namespaces, short):
|     tag, text = (elem.tag, elem.text)
|     if tag is Comment:
|         write('<!--%s-->' % (_escape(text) if html else text))
|     elif tag is ProcessingInstruction:
|         write('<?%s?>' % (_escape(text) if html else text))
|     else:
|         tag = qnames[_plain(tag)]
|         filled = html or text or len(elem) or (not short)
|         if tag is not None:
|             write('<' + tag)
|             for v, k in sorted(namespaces.items(), key=lambda x: x[1]):
|                 write(' xmlns%s="%s"' % (':' + k if k else '', _escape(v, _ATTRIB)))
|             for k, v in elem.items():
|                 v = qnames[v.text] if isinstance(v, QName) else _escape(v, _HTML if html
|                     else _ATTRIB)
|                 write(' %s="%s"' % (qnames[_plain(k)], v))
|             write('>' if filled else ' />')
|         if text:
|             write(text if html and tag and (tag.lower() in ('script', 'style'))
|                 else _escape(text))
|         for e in elem:
|             _serialize(html, write, e, qnames, «», short)
|         if tag is not None and filled and (not (html and tag.lower() in HTML_EMPTY)):
|             write('</' + tag + '>')
|     if elem.tail:
|         write(_escape(elem.tail))
| _WEB = 'http://www.w3.org/'
| _namespace_map = «_WEB + 'XML/1998/namespace': 'xml', _WEB + '1999/xhtml': 'html', _WEB
|     + '1999/02/22-rdf-syntax-ns#': 'rdf', _WEB + '2001/XMLSchema': 'xs', _WEB
|     + '2001/XMLSchema-instance': 'xsi'»
| _CDATA = (('&', '&amp;'), ('<', '&lt;'), ('>', '&gt;'))
| _ATTRIB = _CDATA + (('"', '&quot;'), ('\r', '&#13;'), ('\n', '&#10;'), ('\t', '&#09;'))
| _HTML = (('&', '&amp;'), ('>', '&gt;'), ('"', '&quot;'))

| def _escape(text, pairs=_CDATA):
|     if not isinstance(text, str):
|         _unfit(text)
|     for a, b in pairs:
|         text = text.replace(a, b)
|     return text

| def tostring(element, encoding=None, method=None, **options):
|     stream = io.StringIO() if encoding == 'unicode' else io.BytesIO()
|     ElementTree(element).write(stream, encoding, method=method, **options)
|     return stream.getvalue()

| def XML(text, parser=None):
|     parser = parser or XMLParser()
|     parser.feed(text)
|     return parser.close()
| fromstring = XML

| class TreeBuilder:

|     def __init__(self, element_factory=None, *, comment_factory=None, pi_factory=None,
|         insert_comments=False, insert_pis=False):
|         self._data, self._elem, self._last, self._root, self._tail = ([], [], None, None, None)
|         self._comment_factory = comment_factory or Comment
|         self._pi_factory = pi_factory or ProcessingInstruction
|         self._factory = element_factory or Element
|         self.insert_comments, self.insert_pis = (insert_comments, insert_pis)

|     def close(self):
|         assert len(self._elem) == 0, 'missing end tags'
|         assert self._root is not None, 'missing toplevel element'
|         return self._root

|     def _flush(self):
|         if self._data and self._last is not None:
|             setattr(self._last, 'tail' if self._tail else 'text', ''.join(self._data))
|         self._data = []

|     def data(self, data):
|         self._data.append(data)

|     def _add(self, elem, tail):
|         self._flush()
|         if self._elem:
|             self._elem[-1].append(elem)
|         elif self._root is None and (not tail):
|             self._root = elem
|         self._last, self._tail = (elem, tail)
|         return elem

|     def start(self, tag, attrs):
|         elem = self._add(self._factory(tag, attrs), 0)
|         self._elem.append(elem)
|         return elem

|     def end(self, tag):
|         self._flush()
|         self._last = self._elem.pop()
|         assert self._last.tag == tag, 'end tag mismatch (expected %s, got %s)' % (self._last.tag, tag)
|         self._tail = 1
|         return self._last
| _NAME = re.compile('[A-Za-z_:\x80-\U0010ffff][-.0-9A-Za-z_:\x80-\U0010ffff]*')
| _SPACE = re.compile('[ \t\n]*')
| _BAD = re.compile('[\x00-\x08\x0b\x0c\x0e-\x1f\ufffe\uffff]')
| _KNOWN = «'amp': '&', 'lt': '<', 'gt': '>', 'quot': '"', 'apos': "'"»

| class XMLParser:

|     def __init__(self, *, target=None, encoding=None):
|         self.target = TreeBuilder() if target is None else target
|         self.entity, self.version = («», 'Expat 2.5.0')
|         self._encoding, self._given, self._events, self._wanted = (encoding, [], [], ())
|         self._open, self._entities, self._active = ([], «», [])
|         self._scopes = [«'xml': _WEB + 'XML/1998/namespace'»]
|         self._root = self._external = False

|     def feed(self, data):
|         if not isinstance(data, (str, bytes, bytearray, memoryview)):
|             raise TypeError("a bytes-like object is required, not '%s'" % type(data).__name__)
|         self._given.append(data)

|     def close(self):
|         given = self._given
|         if given and (not isinstance(given[0], str)):
|             data = b''.join(given)
|             named = re.match(b'<\\?xml[^>]*encoding\\s*=\\s*["\']([-\\w.]+)["\']', data)
|             encoding = self._encoding or ('utf-16' if data[:2] in (b'\xff\xfe', b'\xfe\xff')
|                 else named[1].decode() if named else 'utf-8-sig')
|             try:
|                 text = data.decode(encoding)
|             except UnicodeDecodeError as e:
|                 self._text = data[:e.start].decode(encoding)
|                 self._fail(4, len(self._text))
|             except LookupError:
|                 raise LookupError('unknown encoding: ' + encoding) from None
|         else:
|             text = ''.join(given)
|         text = self._text = text.replace('\r\n', '\n').replace('\r', '\n')
|         i = 0
|         while i < len(text):
|             i = self._step(text, i)
|         if self._open or not self._root:
|             self._fail(3, len(text))
|         return self.target.close() if hasattr(self.target, 'close') else None

|     def _call(self, name, *args):
|         own = getattr(self.target, name.replace('-', '_'), None)
|         value = own(*args) if own else args if name == 'start-ns' else None
|         if name in self._wanted:
|             self._events.append((name, value))

|     def _find(self, text, mark, start, i):
|         end = text.find(mark, start)
|         if end < 0:
|             self._fail(20 if mark == ']]>' else 5, len(text) if mark == ']]>' else i)
|         bad = _BAD.search(text, start, end)
|         if bad:
|             self._fail(4, bad.start())
|         return end

|     def _name(self, text, i):
|         found = _NAME.match(text, i)
|         if not found:
|             self._fail(4 if i < len(text) else 5, i if i < len(text) else self._begin)
|         if found.end() == len(text):
|             self._fail(5, self._begin)
|         return (found[0], found.end())

|     def _space(self, text, i):
|         i = _SPACE.match(text, i).end()
|         if i >= len(text):
|             self._fail(5, self._begin)
|         return i

|     def _step(self, text, i):
|         self._begin = i
|         inside = self._open or self._active
|         if text[i] == '<':
|             c = text[i + 1:i + 2]
|             if c == '?':
|                 return self._instruction(text, i)
|             if c == '!':
|                 return self._declaration(text, i)
|             if c and (not inside) and (self._root or c == '/'):
|                 self._fail(9 if self._root else 4, i if self._root else i + 1)
|             return self._end(text, i) if c == '/' else self._start(text, i)
|         if not inside:
|             j = _SPACE.match(text, i).end()
|             if j == i:
|                 self._fail(9 if self._root else 4 if _BAD.match(text, i) else 2, i)
|             return j
|         if text[i] == '&':
|             return self._reference(text, i)
|         j = re.compile('[^<&]+').match(text, i).end()
|         bad = re.compile(_BAD.pattern + '|(?<=]])>').search(text, i, j)
|         if bad:
|             self._fail(4, bad.start())
|         self._call('data', text[i:j])
|         return j

|     def _reference(self, text, i, inside=False):
|         if text[i + 1:i + 2] == '#':
|             value, j = self._character(text, i)
|             if inside:
|                 return (value, j)
|             self._call('data', value)
|             return j
|         name, j = self._name(text, i + 1)
|         if text[j] != ';':
|             self._fail(4, j)
|         held = self._entities.get(name)
|         if name in _KNOWN:
|             value = _KNOWN[name]
|         elif held is None and name in self.entity and (not inside):
|             value = self.entity[name]
|         elif held is None:
|             self._fail(11, self._begin if inside else i, '' if inside or not self._external
|                 else ' &%s;' % name)
|         else:
|             if name in self._active:
|                 self._fail(12, i)
|             if not self._active:
|                 self._outer = i
|             self._active.append(name)
|             depth, k, value = (len(self._open), 0, None)
|             if inside:
|                 value = self._value(held, 0, len(held))
|             else:
|                 while k < len(held):
|                     k = self._step(held, k)
|             self._active.pop()
|             if len(self._open) != depth:
|                 self._fail(13, i)
|         if inside:
|             return (value, j + 1)
|         if value is not None:
|             self._call('data', value)
|         return j + 1

|     def _value(self, text, i, end):
|         out = []
|         while i < end:
|             if text[i] == '&':
|                 value, i = self._reference(text, i, True)
|             else:
|                 value, i = (' ' if text[i] in '\t\n' else text[i], i + 1)
|             out.append(value)
|         return ''.join(out)

|     def _qualified(self, name, attribute=False):
|         before, colon, after = name.rpartition(':')
|         uri = self._scopes[-1].get(before, None if colon else '')
|         if uri is None:
|             self._fail(27, self._begin)
|         return '«%s»%s' % (uri, after) if uri and (colon or not attribute) else name

|     def _start(self, text, i):
|         name, j = self._name(text, i + 1)
|         found = «»
|         while True:
|             k = self._space(text, j)
|             c = text[k]
|             if c in '>/':
|                 break
|             if k == j:
|                 self._fail(4, k)
|             key, j = self._name(text, k)
|             j = self._space(text, j)
|             if text[j] != '=':
|                 self._fail(4, j)
|             j = self._space(text, j + 1)
|             if text[j] not in '"\'':
|                 self._fail(4, j)
|             quote = text.find(text[j], j + 1)
|             less = text.find('<', j + 1, quote if quote >= 0 else len(text))
|             if less >= 0:
|                 self._fail(4, less)
|             self._find(text, text[j], j + 1, i)
|             if key in found:
|                 self._fail(8, k)
|             found[key] = self._value(text, j + 1, quote)
|             j = quote + 1
|         if c == '/' and text[k + 1:k + 2] != '>':
|             self._fail(4 if k + 1 < len(text) else 5, k + 1 if k + 1 < len(text) else i)
|         scope, declared, attributes = (dict(self._scopes[-1]), [], «»)
|         for key, value in found.items():
|             if key == 'xmlns' or key[:6] == 'xmlns:':
|                 mark = key[6:]
|                 if mark and (not value):
|                     self._fail(28, i)
|                 scope[mark] = value
|                 declared.append(mark)
|                 self._call('start-ns', mark, value)
|         self._scopes.append(scope)
|         for key, value in found.items():
|             if key != 'xmlns' and key[:6] != 'xmlns:':
|                 key = self._qualified(key, True)
|                 if key in attributes:
|                     self._fail(8, i)
|                 attributes[key] = value
|         full = self._qualified(name)
|         self._open.append((name, full, declared))
|         self._root = True
|         self._call('start', full, attributes)
|         if c == '/':
|             self._close()
|             return k + 2
|         return k + 1

|     def _close(self):
|         _, full, declared = self._open.pop()
|         self._call('end', full)
|         for mark in reversed(declared):
|             self._call('end-ns', mark)
|         self._scopes.pop()

|     def _end(self, text, i):
|         name, j = self._name(text, i + 2)
|         k = self._space(text, j)
|         if text[k] != '>':
|             self._fail(4, k)
|         if not self._open or self._open[-1][0] != name:
|             self._fail(7, i + 2)
|         self._close()
|         return k + 1
"#

end Flowboard.Script.Prelude
