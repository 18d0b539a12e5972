/-! Modules for the trees of programs, for what can be known about values of a program, for the
steps that functions are compiled to, for tests of a program, for what a program runs on, in the
language of scripts. -/
namespace Flowboard.Script.Prelude

/-- The module for the trees of programs. -/
def astText : String := r#"
| from re import compile as _pattern, DOTALL as _DOTALL
| _PLACES = ('lineno', 'col_offset', 'end_lineno', 'end_col_offset')

| class AST:
|     _fields = _attributes = __match_args__ = ()

|     def __init__(self, *args, **kwargs):
|         fields, name = (self._fields, type(self).__name__)
|         if len(args) > len(fields):
|             raise TypeError('%s constructor takes at most %d positional argument%s' % (name,
|                 len(fields), '' if len(fields) == 1 else 's'))
|         for key, value in zip(fields, args):
|             setattr(self, key, value)
|         for key, value in kwargs.items():
|             if key in fields[:len(args)]:
|                 raise TypeError('%s got multiple values for argument %r' % (name, key))
|             setattr(self, key, value)

| def _define():
|     for row in '''mod: Module body type_ignores, Interactive body, Expression body,
| FunctionType argtypes returns
| stmt+: FunctionDef name args body decorator_list returns? type_comment?,
| AsyncFunctionDef name args body decorator_list returns? type_comment?,
| ClassDef name bases keywords body decorator_list, Return value?, Delete targets,
| Assign targets value type_comment?, AugAssign target op value,
| AnnAssign target annotation value? simple, For target iter body orelse type_comment?,
| AsyncFor target iter body orelse type_comment?, While test body orelse, If test body orelse,
| With items body type_comment?, AsyncWith items body type_comment?, Match subject cases,
| Raise exc? cause?, Try body handlers orelse finalbody, TryStar body handlers orelse finalbody,
| Assert test msg?, Import names, ImportFrom module? names level?, Global names, Nonlocal names,
| Expr value, Pass, Break, Continue
| expr+: BoolOp op values, NamedExpr target value, BinOp left op right, UnaryOp op operand,
| Lambda args body, IfExp test body orelse, Dict keys values, Set elts, ListComp elt generators,
| SetComp elt generators, DictComp key value generators, GeneratorExp elt generators, Await value,
| Yield value?, YieldFrom value, Compare left ops comparators, Call func args keywords,
| FormattedValue value conversion format_spec?, JoinedStr values, Constant value kind?,
| Attribute value attr ctx, Subscript value slice ctx, Starred value ctx, Name id ctx,
| List elts ctx, Tuple elts ctx, Slice lower? upper? step?
| expr_context: Load, Store, Del
| boolop: And, Or
| operator: Add, Sub, Mult, MatMult, Div, Mod, Pow, LShift, RShift, BitOr, BitXor, BitAnd, FloorDiv
| unaryop: Invert, Not, UAdd, USub
| cmpop: Eq, NotEq, Lt, LtE, Gt, GtE, Is, IsNot, In, NotIn
| AST: comprehension target iter ifs is_async,
| arguments posonlyargs args vararg? kwonlyargs kw_defaults kwarg? defaults,
| withitem context_expr optional_vars?, match_case pattern guard? body
| AST+: arg arg annotation? type_comment?, keyword arg? value, alias name asname?
| excepthandler+: ExceptHandler type? name? body
| pattern+: MatchValue value, MatchSingleton value, MatchSequence patterns,
| MatchMapping keys patterns rest?, MatchClass cls patterns kwd_attrs kwd_patterns,
| MatchStar name?, MatchAs pattern? name?, MatchOr patterns
| type_ignore: TypeIgnore lineno tag'''.replace(',\n', ', ').split('\n'):
|         base, rows = row.split(': ')
|         placed = _PLACES if base[-1] == '+' else ()
|         base = base.rstrip('+')
|         space = dict(_attributes=placed, __module__='ast')
|         if placed:
|             space.update(end_lineno=None, end_col_offset=None)
|         parent = AST if base == 'AST' else type(base, (AST,), space)
|         globals()[base] = parent
|         for name, *fields in [r.split() for r in rows.split(', ')]:
|             own = «f[:-1]: None for f in fields if f[-1] == '?'»
|             fields = tuple([f.rstrip('?') for f in fields])
|             own.update(space, _fields=fields, __match_args__=fields)
|             globals()[name] = type(name, (parent,), own)
| _define()
| Constant.n = Constant.s = property(lambda self: self.value, lambda self, value: setattr(self,
|     'value', value))

| class _Kind(type):
|     pass

| class _Old(Constant, metaclass=_Kind):
|     _types = ()

| class Ellipsis(_Old):
|     _types = type(...)

| def parse(source, filename='<unknown>', mode='exec', *, type_comments=False,
|     feature_version=None):
|     if isinstance(source, AST):
|         return source
|     if isinstance(source, bytes):
|         source = source.decode()
|     compile(source, filename, mode)
|     reader = _Reader(source.strip(' \t') if mode == 'eval' else source)
|     if mode == 'eval':
|         return Expression(reader.exprs())
|     body = reader.block_to('')
|     return Interactive(body) if mode == 'single' else Module(body, [])

| def literal_eval(node_or_string):
|     node = node_or_string
|     if isinstance(node, str):
|         node = parse(node.lstrip(' \t'), mode='eval')
|     if isinstance(node, Expression):
|         node = node.body

|     def convert(node):
|         if isinstance(node, Constant):
|             return node.value
|         if isinstance(node, (Tuple, List, Set)):
|             kind = tuple if isinstance(node, Tuple) else list if isinstance(node, List) else set
|             return kind(map(convert, node.elts))
|         if isinstance(node, Call) and isinstance(node.func, Name) and (node.func.id == 'set'
|             and node.args == node.keywords == []):
|             return set()
|         if isinstance(node, Dict):
|             if len(node.keys) != len(node.values):
|                 fail(node)
|             return dict(zip(map(convert, node.keys), map(convert, node.values)))
|         if isinstance(node, BinOp) and isinstance(node.op, (Add, Sub)):
|             left, right = (signed(node.left), number(node.right))
|             if isinstance(left, (int, float)) and isinstance(right, complex):
|                 return left + right if isinstance(node.op, Add) else left - right
|         return signed(node)
|     return convert(node)

| def dump(node, annotate_fields=True, include_attributes=False, *, indent=None):
|     if not isinstance(node, AST):
|         raise TypeError('expected AST, got %r' % type(node).__name__)
|     if indent is not None and (not isinstance(indent, str)):
|         indent = ' ' * indent

|     def text(node, level=0):
|         start, sep = ('', ', ')
|         if indent is not None:
|             level += 1
|             start = '\n' + indent * level
|             sep = ',' + start
|         if isinstance(node, AST):
|             args, simple, named = ([], True, annotate_fields)
|             for i, name in enumerate(node._fields
|                 + node._attributes * bool(include_attributes)):
|                 value = getattr(node, name, text)
|                 if value is text or (value is None and getattr(type(node), name, text) is None):
|                     named = named or i < len(node._fields)
|                     continue
|                 value, plain = text(value, level)
|                 simple = simple and plain
|                 args.append(name + '=' + value if named or i >= len(node._fields) else value)
|             name = type(node).__name__
|             if simple and len(args) <= 3:
|                 return ('%s(%s)' % (name, ', '.join(args)), not args)
|             return ('%s(%s%s)' % (name, start, sep.join(args)), False)
|         if isinstance(node, list):
|             if not node:
|                 return ('[]', True)
|             return ('[%s%s]' % (start, sep.join([text(x, level)[0] for x in node])), False)
|         return (repr(node), True)
|     return text(node)[0]
| _TOKEN = _pattern(r'''(?P<_>[ \t\f]+|\\\n|\#[^\n]*)|(?P<n>\n)|'''
|  r'''(?P<S>(?i:br?|rb?|u|fr?|rf)?(?:"""(?:[^\\]|\\.)*?"""|\'\'\'(?:[^\\]|\\.)*?\'\'\'|'''
|  r'''"(?:[^\\\n"]|\\.)*"|'(?:[^\\\n']|\\.)*'))|'''
|  r'''(?P<D>0[xX][\da-fA-F_]+|0[oO][0-7_]+|0[bB][01_]+|'''
|  r'''(?:\d[\d_]*\.?(?:\d[\d_]*)?|\.\d[\d_]*)(?:[eE][+-]?\d[\d_]*)?[jJ]?)|(?P<N>[^\W\d]\w*)|'''
|  r'''(?P<O>\.\.\.|\*\*=?|//=?|>>=?|<<=?|!=|->|:=|[-+*/%&|^@=<>]=?|[~()\[\]«»,:.;!])''', _DOTALL)
| _ESCAPED = _pattern('\\\\.|"', _DOTALL)
| _WORDS = frozenset('''False None True and as assert async await break class continue def del elif
| else except finally for from global if import in is lambda nonlocal not or pass raise return try
| while with yield'''.split())
| _LEVELS = [['|'], ['^'], ['&'], ['<<', '>>'], ['+', '-'], ['*', '/', '//', '%', '@']]
| _OPS = «'|': BitOr, '^': BitXor, '&': BitAnd, '<<': LShift, '>>': RShift, '+': Add, '-': Sub,
|     '*': Mult, '/': Div, '//': FloorDiv, '%': Mod, '@': MatMult, '**': Pow»
| _COMPARED = «'==': Eq, '!=': NotEq, '<': Lt, '<=': LtE, '>': Gt, '>=': GtE, 'is': Is,
|     'is not': IsNot, 'in': In, 'not in': NotIn»
| _UNARY = «'-': USub, '+': UAdd, '~': Invert, 'not': Not»
| _CONSTANTS = «'None': None, 'True': True, 'False': False, '...': ...»

| def _tokens(source):
|     source = source.replace('\r\n', '\n')
|     if source[-1:] != '\n':
|         source += '\n'
|     out, depth, indents, line, begin, i, fresh = ([], 0, [0], 1, 0, 0, True)

|     def column(i):
|         return len(source[begin:i].encode())
|     while i < len(source):
|         if fresh and (not depth):
|             j, width = (i, 0)
|             while source[j] in ' \t\x0c':
|                 width = width + 1 if source[j] == ' ' else width // 8 * 8 + 8
|                 j += 1
|             if source[j] in '#\n':
|                 i = begin = source.index('\n', j) + 1
|                 line += 1
|                 continue
|             while width < indents[-1]:
|                 indents.pop()
|                 out.append(('<', '<', None, None))
|             if width > indents[-1]:
|                 indents.append(width)
|                 out.append(('>', '>', None, None))
|             i, fresh = (j, False)
|         m = _TOKEN.match(source, i)
|         if m is None:
|             raise SyntaxError('invalid syntax')
|         kind, text = (m.lastgroup, m.group())
|         if kind in 'SDNO':
|             start = (line, column(i))
|             if kind == 'S' and '\n' in text:
|                 line += text.count('\n')
|                 begin = i + text.rindex('\n') + 1
|             i = m.end()
|             out.append((kind, text, start, (line, column(i))))
|             if kind == 'O':
|                 depth += (text in '([«') - (text in ')]»')
|         else:
|             i = m.end()
|             if text[-1] == '\n':
|                 line += 1
|                 begin = i
|                 if kind == 'n' and (not depth):
|                     out.append(('n', '\n', None, None))
|                     fresh = True
|     if not fresh:
|         out.append(('n', '\n', None, None))
|     return out + [('<', '<', None, None)] * (len(indents) - 1) + [('', '', None, None)]

| def _stored(node, context):
|     if isinstance(node, (Tuple, List)):
|         for e in node.elts:
|             _stored(e, context)
|     elif isinstance(node, Starred):
|         _stored(node.value, context)
|     if 'ctx' in node._fields:
|         node.ctx = context()
|     return node

| class _Reader:

|     def __init__(self, source):
|         self.tokens = _tokens(source)
|         self.i = 0
|         self.end = (1, 0)

|     def next(self):
|         token = self.tokens[self.i]
|         self.i += 1
|         if token[3]:
|             self.end = token[3]
|         return token[1]

|     def at(self, *texts):
|         token = self.tokens[self.i]
|         return token[0] != 'S' and token[1] in texts

|     def take(self, *texts):
|         if self.at(*texts):
|             return self.next()

|     def need(self, text):
|         if not self.at(text):
|             raise SyntaxError('invalid syntax')
|         return self.next()

|     def start(self):
|         return self.tokens[self.i][2]

|     def make(self, kind, start, *fields):
|         node = kind(*fields)
|         node.lineno, node.col_offset = start
|         node.end_lineno, node.end_col_offset = self.end
|         return node

|     def many(self, one, *also):
|         s, items, comma = (self.start(), [one()], False)
|         while self.take(','):
|             comma = True
|             if not self.begins() and (not self.at(*also)):
|                 break
|             items.append(one())
|         return self.make(Tuple, s, items, Load()) if comma else items[0]

|     def exprs(self):
|         return self.many(self.star)

|     def star(self):
|         s = self.start()
|         if self.take('*'):
|             return self.make(Starred, s, self.binary(0), Load())
|         return self.named()

|     def named(self):
|         s = self.start()
|         e = self.test()
|         if self.take(':='):
|             return self.make(NamedExpr, s, _stored(e, Store), self.test())
|         return e

|     def test(self):
|         s = self.start()
|         if self.take('yield'):
|             if self.take('from'):
|                 return self.make(YieldFrom, s, self.test())
|             return self.make(Yield, s, self.exprs() if self.begins() else None)
|         if self.take('lambda'):
|             args = self.params(':')
|             return self.make(Lambda, s, args, self.test())
|         e = self.either('or', Or)
|         if self.take('if'):
|             c = self.either('or', Or)
|             self.need('else')
|             return self.make(IfExp, s, c, e, self.test())
|         return e

|     def either(self, word, kind):
|         s, items = (self.start(), [])
|         while not items or self.take(word):
|             items.append(self.either('and', And) if word == 'or' else self.inverse())
|         return items[0] if len(items) == 1 else self.make(BoolOp, s, kind(), items)

|     def inverse(self):
|         s = self.start()
|         if self.take('not'):
|             return self.make(UnaryOp, s, Not(), self.inverse())
|         e, ops, rest = (self.binary(0), [], [])
|         while True:
|             word = self.take('==', '!=', '<', '<=', '>', '>=', 'in', 'is', 'not')
|             if word is None:
|                 return self.make(Compare, s, e, ops, rest) if ops else e
|             if word == 'is' and self.take('not'):
|                 word = 'is not'
|             elif word == 'not':
|                 self.need('in')
|                 word = 'not in'
|             ops.append(_COMPARED[word]())
|             rest.append(self.binary(0))

|     def binary(self, level):
|         s = self.start()
|         if level < len(_LEVELS):
|             e = self.binary(level + 1)
|             while (word := self.take(*_LEVELS[level])):
|                 e = self.make(BinOp, s, e, _OPS[word](), self.binary(level + 1))
|             return e
|         if (word := self.take('-', '+', '~')):
|             return self.make(UnaryOp, s, _UNARY[word](), self.binary(level))
|         if self.take('await'):
|             e = self.make(Await, s, self.postfix())
|         else:
|             e = self.postfix()
|         if self.take('**'):
|             return self.make(BinOp, s, e, Pow(), self.binary(level))
|         return e

|     def postfix(self):
|         s = self.start()
|         e = self.atom()
|         while True:
|             if self.take('.'):
|                 e = self.make(Attribute, s, e, self.name(), Load())
|             elif self.take('['):
|                 t = self.start()
|                 i = self.many(self.subscript, ':')
|                 if isinstance(i, Starred):
|                     i = self.make(Tuple, t, [i], Load())
|                 self.need(']')
|                 e = self.make(Subscript, s, e, i, Load())
|             elif self.at('('):
|                 args, keywords = self.arguments()
|                 e = self.make(Call, s, e, args, keywords)
|             else:
|                 return e

|     def atom(self):
|         s = self.start()
|         kind, text = self.tokens[self.i][:2]
|         if kind == 'S':
|             return self.strings()
|         self.next()
|         if kind == 'D':
|             return self.make(Constant, s, eval(text), None)
|         if text in _CONSTANTS:
|             return self.make(Constant, s, _CONSTANTS[text], None)
|         if kind == 'N' and text not in _WORDS:
|             return self.make(Name, s, text, Load())
|         if text == '(':
|             if self.take(')'):
|                 return self.make(Tuple, s, [], Load())
|             e = self.star()
|             if self.at('for', 'async'):
|                 clauses = self.clauses()
|                 self.need(')')
|                 return self.make(GeneratorExp, s, e, clauses)
|             if self.take(','):
|                 items = [e]
|                 while not self.at(')'):
|                     items.append(self.star())
|                     if not self.take(','):
|                         break
|                 self.need(')')
|                 return self.make(Tuple, s, items, Load())
|             self.need(')')
|             return e
|         if text == '[':
|             items = []
|             while not self.at(']'):
|                 items.append(self.star())
|                 if self.at('for', 'async'):
|                     clauses = self.clauses()
|                     self.need(']')
|                     return self.make(ListComp, s, items[0], clauses)
|                 if not self.take(','):
|                     break
|             self.need(']')
|             return self.make(List, s, items, Load())
|         if text == '«':
|             return self.braces(s)
|         raise SyntaxError('invalid syntax')

|     def braces(self, s):
|         keys, values, pairs = ([], [], self.at('»'))
|         while not self.at('»'):
|             if self.take('**'):
|                 pairs = True
|                 keys.append(None)
|                 values.append(self.binary(0))
|             else:
|                 keys.append(self.star())
|                 if self.take(':'):
|                     pairs = True
|                     values.append(self.test())
|                 if self.at('for', 'async'):
|                     clauses = self.clauses()
|                     self.need('»')
|                     if pairs:
|                         return self.make(DictComp, s, keys[0], values[0], clauses)
|                     return self.make(SetComp, s, keys[0], clauses)
|             if not self.take(','):
|                 break
|         self.need('»')
|         return self.make(Dict, s, keys, values) if pairs else self.make(Set, s, keys)

|     def strings(self):
|         s, parts, joined = (self.start(), [], False)
|         first = self.tokens[self.i][1]
|         while self.tokens[self.i][0] == 'S':
|             where, text = (self.start(), self.next())
|             mark = text[:len(text) - len(text.lstrip('bBrRuUfF'))].lower()
|             if 'f' in mark:
|                 joined = True
|                 body = text[len(mark):]
|                 size = 3 if body[:3] in ('"""', "'''") else 1
|                 parts += self.pieces(body[size:-size], 'r' in mark, s, False)[0]
|             else:
|                 parts.append(eval(text))
|         if not joined:
|             value = parts[0]
|             for p in parts[1:]:
|                 value += p
|             return self.make(Constant, s, value, 'u' if first[0] == 'u' else None)
|         return self.joined(parts, s)

|     def block_to(self, end):
|         out = []
|         while not self.at(end):
|             out += self.statement()
|         self.next()
|         return out

|     def line(self):
|         out = [self.simple()]
|         while self.take(';'):
|             if self.at('\n'):
|                 break
|             out.append(self.simple())
|         self.need('\n')
|         return out

|     def statement(self):
|         s = self.start()
|         decorators = []
|         while self.take('@'):
|             decorators.append(self.named())
|             self.need('\n')
|             s = self.start()
|         waits = self.at('async')
|         if waits:
|             self.next()
|         if self.take('def'):
|             name = self.name()
|             self.need('(')
|             args = self.params(')', True)
|             result = self.exprs() if self.take('->') else None
|             return [self.make(AsyncFunctionDef if waits else FunctionDef, s, name, args,
|                 self.block(), decorators, result)]
|         if self.take('class'):
|             name = self.name()
|             bases, keywords = self.arguments() if self.at('(') else ([], [])
|             return [self.make(ClassDef, s, name, bases, keywords, self.block(), decorators)]
|         if self.take('if'):
|             return [self.choice(s)]
|         if self.take('while'):
|             test = self.named()
|             return [self.make(While, s, test, self.block(), self.rest('else'))]
|         if self.take('for'):
|             target = self.target()
|             self.need('in')
|             e = self.exprs()
|             return [self.make(AsyncFor if waits else For, s, target, e, self.block(),
|                 self.rest('else'))]
|         if self.take('with'):
|             items = self.managers()
|             return [self.make(AsyncWith if waits else With, s, items, self.block())]
|         if self.take('try'):
|             return [self.attempt(s)]
|         if self.at('match'):
|             i, end = (self.i, self.end)
|             try:
|                 self.next()
|                 subject = self.exprs()
|                 for text in (':', '\n', '>'):
|                     self.need(text)
|                 cases = []
|                 while not self.take('<'):
|                     self.need('case')
|                     pattern = self.open_pattern()
|                     guard = self.named() if self.take('if') else None
|                     cases.append(match_case(pattern, guard, self.block()))
|                 return [self.make(Match, s, subject, cases)]
|             except SyntaxError:
|                 self.i, self.end = (i, end)
|         return self.line()

|     def simple(self):
|         s = self.start()
|         for word, kind in (('pass', Pass), ('break', Break), ('continue', Continue)):
|             if self.take(word):
|                 return self.make(kind, s)
|         if self.take('return'):
|             return self.make(Return, s, self.exprs() if self.begins() else None)
|         if self.take('raise'):
|             e = self.test() if self.begins() else None
|             return self.make(Raise, s, e, self.test() if self.take('from') else None)
|         if self.take('global'):
|             return self.make(Global, s, self.names())
|         if self.take('nonlocal'):
|             return self.make(Nonlocal, s, self.names())
|         if self.take('del'):
|             e = self.many(lambda: self.binary(0))
|             paired = isinstance(e,
|                 Tuple) and self.tokens[self.i - 1][1] != ')' or (isinstance(e, Tuple)
|                 and e.col_offset == e.elts[0].col_offset)
|             return self.make(Delete, s, [_stored(x, Del) for x in (e.elts if paired else [e])])
|         if self.take('assert'):
|             e = self.test()
|             return self.make(Assert, s, e, self.test() if self.take(',') else None)
|         if self.take('import'):
|             return self.make(Import, s, self.aliases(True))
|         if self.take('from'):
|             level, name = (0, None)
|             while (w := self.take('.', '...')):
|                 level += len(w)
|             if not self.at('import'):
|                 name = self.name()
|                 while self.take('.'):
|                     name += '.' + self.name()
|             self.need('import')
|             opened = self.take('(')
|             found = self.aliases(False)
|             if opened:
|                 self.need(')')
|             return self.make(ImportFrom, s, name, found, level)
|         opened = self.at('(')
|         e = self.exprs()
|         if self.take(':'):
|             note = self.test()
|             value = self.exprs() if self.take('=') else None
|             return self.make(AnnAssign, s, _stored(e, Store), note, value, int(isinstance(e,
|                 Name) and (not opened)))
|         token = self.tokens[self.i]
|         if token[0] == 'O' and token[1][:-1] in _OPS and (token[1][-1] == '='):
|             op = _OPS[self.next()[:-1]]()
|             return self.make(AugAssign, s, _stored(e, Store), op, self.exprs())
|         targets = []
|         while self.take('='):
|             targets.append(_stored(e, Store))
|             e = self.exprs()
|         return self.make(Assign, s, targets, e) if targets else self.make(Expr, s, e)
| _SIGNS = «kind.__name__: sign for kinds in (_OPS, _COMPARED, _UNARY, «'and': And, 'or': Or»)
|     for sign, kind in kinds.items()»
| _RANKS = «'|': 9, '^': 10, '&': 11, '<<': 12, '>>': 12, '+': 13, '-': 13, '*': 14, '/': 14,
|     '//': 14, '%': 14, '@': 14, '**': 16»
| _MARKS = ["'", '"', '"""', "'''"]

| class _Writer:

|     def __init__(self, avoid=False):
|         self.avoid = avoid
|         self.lines = []

|     def constant(self, value):
|         if isinstance(value, (float, complex)):
|             return repr(value).replace('inf', '1e309').replace('nan', '(1e309-1e309)')
|         if self.avoid and isinstance(value, str):
|             text, marks = _quoted(value, _MARKS)
|             return marks[0] + text + marks[0]
|         if isinstance(value, tuple):
|             return '(' + ', '.join(map(self.constant, value)) + ',' * (len(value) == 1) + ')'
|         return '...' if value is ... else repr(value)

|     def text(self, n, rank=4):
|         kind = type(n).__name__
|         own = getattr(self, kind, None)
|         if own is None:
|             raise AttributeError(kind)
|         found = own(n) if kind != 'Tuple' else self.Tuple(n, rank)
|         if isinstance(found, str):
|             return found
|         return '(' + found[1] + ')' if rank > found[0] else found[1]

|     def Name(self, n):
|         return n.id

|     def Constant(self, n):
|         return 'u' * (n.kind == 'u') + self.constant(n.value)

|     def BinOp(self, n):
|         sign = _SIGNS[type(n.op).__name__]
|         rank = _RANKS[sign]
|         return (rank, '%s %s %s' % (self.text(n.left, rank + (sign == '**')), sign,
|             self.text(n.right, rank + (sign != '**'))))

|     def put(self, depth, text):
|         self.lines.append('    ' * depth + text)

|     def body(self, nodes, depth, documented=False):
|         if documented and nodes and isinstance(nodes[0], Expr) and isinstance(nodes[0].value,
|             Constant) and isinstance(nodes[0].value.value, str):
|             text, marks = _quoted(nodes[0].value.value, _MARKS[2:])
|             self.put(depth, 'u' * (nodes[0].value.kind == 'u') + marks[0] + text + marks[0])
|             nodes = nodes[1:]
|         for n in nodes:
|             self.statement(n, depth)

|     def statement(self, n, d, star=''):
|         kind, t = (type(n).__name__, self.text)
|         waits = 'async ' * kind.startswith('Async')
|         if kind in ('FunctionDef', 'AsyncFunctionDef', 'ClassDef'):
|             if self.lines:
|                 self.lines.append('')
|             for e in n.decorator_list:
|                 self.put(d, '@' + t(e))
|             if kind == 'ClassDef':
|                 given = self.all(n.bases + n.keywords)
|                 head = 'class ' + n.name + ('(' + given + ')' if given else '')
|             else:
|                 head = '%sdef %s(%s)%s' % (waits, n.name, t(n.args), ' -> ' + t(n.returns)
|                     if n.returns else '')
|             self.block(head, n.body, d, True)
|         elif kind == 'If':
|             self.block('if ' + t(n.test), n.body, d)
|             while len(n.orelse) == 1 and isinstance(n.orelse[0], If):
|                 n = n.orelse[0]
|                 self.block('elif ' + t(n.test), n.body, d)
|             self.rest('else', n.orelse, d)
|         elif kind == 'While':
|             self.block('while ' + t(n.test), n.body, d)
|             self.rest('else', n.orelse, d)
|         elif kind in ('For', 'AsyncFor'):
|             self.block('%sfor %s in %s' % (waits, t(n.target, 2), t(n.iter)), n.body, d)
|             self.rest('else', n.orelse, d)
|         elif kind in ('With', 'AsyncWith'):
|             self.block(waits + 'with ' + self.all(n.items), n.body, d)
|         elif kind in ('Try', 'TryStar'):
|             self.block('try', n.body, d)
|             for h in n.handlers:
|                 self.statement(h, d, '*' * (kind == 'TryStar'))
|             self.rest('else', n.orelse, d)
|             self.rest('finally', n.finalbody, d)
|         elif kind == 'ExceptHandler':
|             self.block('except' + star + (' ' + t(n.type) if n.type else '') + (' as ' + n.name
|                 if n.name else ''), n.body, d)
|         elif kind == 'Match':
|             self.put(d, 'match ' + t(n.subject) + ':')
|             for c in n.cases:
|                 self.statement(c, d + 1)
|         elif kind == 'match_case':
|             guard = ' if ' + t(n.guard) if n.guard else ''
|             self.block('case ' + t(n.pattern) + guard, n.body, d)
|         else:
|             self.put(d, self.simple(n, kind, t))

|     def simple(self, n, kind, t):
|         if kind == 'Expr':
|             return t(n.value, 3)
|         if kind == 'Assign':
|             return ''.join([t(e, 2) + ' = ' for e in n.targets]) + t(n.value)
|         if kind == 'AugAssign':
|             return '%s %s= %s' % (t(n.target), _SIGNS[type(n.op).__name__], t(n.value))
|         if kind == 'AnnAssign':
|             target = t(n.target)
|             if not n.simple and isinstance(n.target, Name):
|                 target = '(' + target + ')'
|             return target + ': ' + t(n.annotation) + (' = ' + t(n.value) if n.value else '')
|         if kind in ('Pass', 'Break', 'Continue'):
|             return kind.lower()
|         if kind == 'Return':
|             return 'return' + (' ' + t(n.value) if n.value else '')
|         if kind == 'Raise':
|             return 'raise' + (' ' + t(n.exc) if n.exc else '') + (' from ' + t(n.cause)
|                 if n.cause else '')
|         if kind == 'Delete':
|             return 'del ' + self.all(n.targets)
|         if kind == 'Assert':
|             return 'assert ' + t(n.test) + (', ' + t(n.msg) if n.msg else '')
|         if kind in ('Global', 'Nonlocal'):
|             return kind.lower() + ' ' + ', '.join(n.names)
|         if kind == 'Import':
|             return 'import ' + self.all(n.names)
|         if kind == 'ImportFrom':
|             return 'from ' + '.' * (n.level or 0) + (n.module
|                 or '') + ' import ' + self.all(n.names)
|         return t(n)

| def unparse(ast_obj):
|     writer = _Writer()
|     if isinstance(ast_obj, (Module, Interactive)):
|         writer.body(ast_obj.body, 0, isinstance(ast_obj, Module))
|     elif isinstance(ast_obj, Expression):
|         return writer.text(ast_obj.body)
|     elif isinstance(ast_obj, (stmt, excepthandler, match_case)):
|         writer.statement(ast_obj, 0)
|     elif isinstance(ast_obj, list):
|         for node in ast_obj:
|             writer.statement(node, 0)
|     else:
|         return writer.text(ast_obj)
|     return '\n'.join(writer.lines)
"#

/-- The module for what can be known about values of a program. -/
def inspectText : String := r#"
| import sys
| from types import *
| from collections import OrderedDict, namedtuple
| from functools import partial
| CO_OPTIMIZED, CO_NEWLOCALS, CO_VARARGS, CO_VARKEYWORDS, CO_NESTED = (1, 2, 4, 8, 16)
| FullArgSpec = namedtuple('FullArgSpec', 'args varargs varkw defaults kwonlyargs kwonlydefaults '
|  'annotations')
| FrameInfo = namedtuple('FrameInfo', 'frame filename lineno function code_context index')
| Traceback = namedtuple('Traceback', 'filename lineno function code_context index')

| def isclass(object):
|     return isinstance(object, type)

| def ismethod(object):
|     return isinstance(object, MethodType)

| def isfunction(object):
|     return isinstance(object, FunctionType)

| def unwrap(func, *, stop=None):
|     seen = set()
|     while hasattr(func, '__wrapped__') and (not (stop and stop(func))):
|         if id(func) in seen:
|             raise ValueError('wrapper loop when unwrapping %r' % (func,))
|         seen.add(id(func))
|         func = func.__wrapped__
|     return func

| def get_annotations(obj, *, globals=None, locals=None, eval_str=False):
|     notes = obj.__dict__.get('__annotations__') if isclass(obj) else getattr(obj,
|         '__annotations__', None)
|     if notes is None:
|         return «»
|     if eval_str:
|         space = globals or getattr(obj, '__globals__', «»)
|         return «k: eval(v, space, locals) if isinstance(v, str) else v for k,
|             v in notes.items()»
|     return dict(notes)

| def formatannotation(annotation, base_module=None):
|     if getattr(annotation, '__module__', None) == 'typing':
|         return repr(annotation).replace('typing.', '')
|     if isinstance(annotation, GenericAlias):
|         return str(annotation)
|     if isinstance(annotation, type):
|         if annotation.__module__ in ('builtins', base_module):
|             return annotation.__qualname__
|         return annotation.__module__ + '.' + annotation.__qualname__
|     return repr(annotation)

| class _empty:
|     pass

| class _ParameterKind(int):
|     pass
| _KINDS = []
| for _name, _about in (('POSITIONAL_ONLY', 'positional-only'), ('POSITIONAL_OR_KEYWORD',
|     'positional or keyword'), ('VAR_POSITIONAL', 'variadic positional'), ('KEYWORD_ONLY',
|     'keyword-only'), ('VAR_KEYWORD', 'variadic keyword')):
|     _kind = _ParameterKind(len(_KINDS))
|     _kind.name, _kind.description = (_name, _about)
|     _KINDS.append(_kind)

| class Parameter:
|     POSITIONAL_ONLY, POSITIONAL_OR_KEYWORD, VAR_POSITIONAL, KEYWORD_ONLY, VAR_KEYWORD = _KINDS
|     empty = _empty

|     def __init__(self, name, kind, *, default=_empty, annotation=_empty):
|         try:
|             self.kind = _KINDS[kind]
|         except IndexError:
|             raise ValueError('value %r is not a valid Parameter.kind' % (kind,)) from None
|         if default is not _empty and kind in (2, 4):
|             raise ValueError('%s parameters cannot have default values' % self.kind.description)
|         if not isinstance(name, str):
|             raise TypeError('name must be a str, not a ' + type(name).__name__)
|         if not name.isidentifier():
|             raise ValueError('%r is not a valid parameter name' % name)
|         self.name, self.default, self.annotation = (name, default, annotation)

|     def __str__(self):
|         text = self.name
|         if self.annotation is not _empty:
|             text += ': ' + formatannotation(self.annotation)
|         if self.default is not _empty:
|             text += (' = ' if self.annotation is not _empty else '=') + repr(self.default)
|         return '*' * (self.kind == 2) + '**' * (self.kind == 4) + text

| class Signature:
|     empty = _empty

|     def __init__(self, parameters=None, *, return_annotation=_empty,
|         __validate_parameters__=True):
|         found, top, defaults = («», 0, False)
|         for p in parameters or ():
|             if p.kind < top:
|                 raise ValueError('wrong parameter order: %s parameter before %s parameter'
|                     % (_KINDS[top].description, p.kind.description))
|             if p.kind > top:
|                 top = p.kind
|             if p.kind < 2:
|                 if p.default is not _empty:
|                     defaults = True
|                 elif defaults:
|                     raise ValueError('non-default argument follows default argument')
|             if p.name in found:
|                 raise ValueError('duplicate parameter name: %r' % p.name)
|             found[p.name] = p
|         self.parameters = MappingProxyType(OrderedDict(found))
|         self.return_annotation = return_annotation

|     def __str__(self):
|         out, placed, star = ([], False, True)
|         for p in self.parameters.values():
|             if p.kind == 0:
|                 placed = True
|             elif placed:
|                 out.append('/')
|                 placed = False
|             if p.kind == 2:
|                 star = False
|             elif p.kind == 3 and star:
|                 out.append('*')
|                 star = False
|             out.append(str(p))
|         if placed:
|             out.append('/')
|         text = '(' + ', '.join(out) + ')'
|         if self.return_annotation is not _empty:
|             text += ' -> ' + formatannotation(self.return_annotation)
|         return text

| def _of_function(cls, f, globals=None, locals=None, eval_str=False):
|     code, notes = (f.__code__, get_annotations(f, globals=globals, locals=locals,
|         eval_str=eval_str))
|     n, m = (code.co_argcount, code.co_kwonlyargcount)
|     names, placed = (code.co_varnames, code.co_posonlyargcount)
|     defaults, named, out = (f.__defaults__ or (), f.__kwdefaults__ or «», [])

|     def add(name, kind, default=_empty):
|         out.append(Parameter(name, kind, default=default, annotation=notes.get(name, _empty)))
|     for i, name in enumerate(names[:n]):
|         k = i - (n - len(defaults))
|         add(name, 0 if i < placed else 1, defaults[k] if k >= 0 else _empty)
|     at = n + m
|     if code.co_flags & CO_VARARGS:
|         add(names[at], 2)
|         at += 1
|     for name in names[n:n + m]:
|         add(name, 3, named.get(name, _empty))
|     if code.co_flags & CO_VARKEYWORDS:
|         add(names[at], 4)
|     return cls(out, return_annotation=notes.get('return', _empty))

| def _signature(cls, obj, follow=True, *more):
|     if not callable(obj):
|         raise TypeError('%r is not a callable object' % (obj,))
|     if ismethod(obj):
|         return _without_first(_signature(cls, obj.__func__, follow, *more))
|     if follow:
|         obj = unwrap(obj, stop=lambda f: hasattr(f, '__signature__') or ismethod(f))
|         if ismethod(obj):
|             return _signature(cls, obj, follow, *more)
|     own = getattr(obj, '__signature__', None)
|     if own is not None:
|         return own
|     if isinstance(obj, partial):
|         return _of_partial(_signature(cls, obj.func, follow, *more), obj)
|     if isfunction(obj):
|         return _of_function(cls, obj, *more)
|     if isinstance(obj, type):
|         meta = getattr(type(obj), '__call__', None)
|         if isfunction(meta):
|             return _without_first(_signature(cls, meta, follow, *more))
|         for base in obj.__mro__[:-1]:
|             for name in ('__new__', '__init__'):
|                 f = base.__dict__.get(name)
|                 f = getattr(f, '__func__', f)
|                 if isfunction(f):
|                     return _without_first(_signature(cls, f, follow, *more))
|         if obj.__module__ == 'builtins' or any([b.__module__ == 'builtins'
|             for b in obj.__mro__[1:-1]]):
|             raise ValueError('no signature found for builtin type %r' % (obj,))
|         return cls()
|     call = getattr(type(obj), '__call__', None)
|     if isfunction(call):
|         return _without_first(_signature(cls, call, follow, *more))
|     raise ValueError('no signature found for builtin %r' % (obj,))

| def signature(obj, *, follow_wrapped=True, globals=None, locals=None, eval_str=False):
|     return _signature(Signature, obj, follow_wrapped, globals, locals, eval_str)
"#

/-- The module for the steps that functions are compiled to. -/
def disText : String := r#"
| import ast as _ast
| from collections import namedtuple as _namedtuple
| Instruction = _namedtuple('Instruction', 'opname opcode arg argval argrepr offset starts_line '
|  'is_jump_target')
| _OPS = ('+', '&', '//', '<<', '@', '*', '%', '|', '**', '>>', '-', '/', '^')
| _BINARY = dict(zip('Add BitAnd FloorDiv LShift MatMult Mult Mod BitOr Pow RShift Sub Div '
|  'BitXor'.split(), range(13)))
| _PADS = dict(BINARY_OP=1, BINARY_SUBSCR=4, STORE_SUBSCR=1, COMPARE_OP=2, LOAD_ATTR=4,
|     STORE_ATTR=4, LOAD_GLOBAL=5, LOAD_METHOD=10, PRECALL=1, CALL=4, UNPACK_SEQUENCE=1)
| opmap = dict(CACHE=0, POP_TOP=1, PUSH_NULL=2, NOP=9, UNARY_POSITIVE=10, UNARY_NEGATIVE=11,
|     UNARY_NOT=12, UNARY_INVERT=15, BINARY_SUBSCR=25, GET_ITER=68, STORE_SUBSCR=60,
|     DELETE_SUBSCR=61, RETURN_VALUE=83, IMPORT_STAR=84, SETUP_ANNOTATIONS=85, YIELD_VALUE=86,
|     LOAD_ASSERTION_ERROR=74, STORE_NAME=90, DELETE_NAME=91, UNPACK_SEQUENCE=92, FOR_ITER=93,
|     STORE_ATTR=95, DELETE_ATTR=96, STORE_GLOBAL=97, SWAP=99, LOAD_CONST=100, LOAD_NAME=101,
|     BUILD_TUPLE=102, BUILD_LIST=103, BUILD_SET=104, BUILD_MAP=105, LOAD_ATTR=106,
|     COMPARE_OP=107, IMPORT_NAME=108, IMPORT_FROM=109, JUMP_FORWARD=110,
|     JUMP_IF_FALSE_OR_POP=111, JUMP_IF_TRUE_OR_POP=112, POP_JUMP_FORWARD_IF_FALSE=114,
|     POP_JUMP_FORWARD_IF_TRUE=115, LOAD_GLOBAL=116, IS_OP=117, CONTAINS_OP=118, COPY=120,
|     BINARY_OP=122, LOAD_FAST=124, STORE_FAST=125, DELETE_FAST=126,
|     POP_JUMP_FORWARD_IF_NOT_NONE=128, POP_JUMP_FORWARD_IF_NONE=129, RAISE_VARARGS=130,
|     MAKE_FUNCTION=132, BUILD_SLICE=133, JUMP_BACKWARD=140, CALL_FUNCTION_EX=142,
|     LIST_APPEND=145, RESUME=151, FORMAT_VALUE=155, BUILD_CONST_KEY_MAP=156, BUILD_STRING=157, LOAD_METHOD=160, LIST_EXTEND=162, DICT_MERGE=164, PRECALL=166, CALL=171, KW_NAMES=172, POP_JUMP_BACKWARD_IF_TRUE=176, EXTENDED_ARG=144)
| opname = ['<%d>' % i for i in range(256)]
| for _name, _code in opmap.items():
|     opname[_code] = _name

| class _Code:

|     def __init__(self, fast=None, consts=()):
|         self.out, self.names, self.consts, self.line = ([], [], list(consts), 0)
|         self.fast, self.globals = (fast, set())

|     def emit(self, name, arg=None, value=None, text=''):
|         item = [name, arg, value, text, self.line, False]
|         self.out.append(item)
|         return item

|     def const(self, value):
|         for i, x in enumerate(self.consts):
|             if type(x) is type(value) and repr(x) == repr(value):
|                 break
|         else:
|             i = len(self.consts)
|             self.consts.append(value)
|         self.emit('LOAD_CONST', i, value, repr(value))

|     def named(self, op, name, shown=None):
|         if name not in self.names:
|             self.names.append(name)
|         i = self.names.index(name)
|         if op == 'LOAD_GLOBAL':
|             i = 2 * i + bool(shown)
|         self.emit(op, i, name, shown or name)

|     def name(self, op, name, call=False):
|         if self.fast is None:
|             if call:
|                 self.emit('PUSH_NULL')
|             return self.named(op + '_NAME', name)
|         if name in self.fast:
|             if call:
|                 self.emit('PUSH_NULL')
|             return self.emit(op + '_FAST', self.fast.index(name), name, name)
|         self.named(op + '_GLOBAL', name, 'NULL + ' + name if call else None)

|     def fold(self, e):
|         if isinstance(e, _ast.Constant):
|             return (True, e.value)
|         if isinstance(e, _ast.Tuple) and isinstance(e.ctx, _ast.Load):
|             parts = [self.fold(x) for x in e.elts]
|             return (all([p[0] for p in parts]), tuple([p[1] for p in parts]))
|         if isinstance(e, _ast.BinOp) or (isinstance(e, _ast.UnaryOp) and (not isinstance(e.op,
|             _ast.Not))):
|             inner = [e.left, e.right] if isinstance(e, _ast.BinOp) else [e.operand]
|             if all([self.fold(x)[0] for x in inner]):
|                 try:
|                     return (True, eval(_ast.unparse(e)))
|                 except Exception:
|                     pass
|         return (False, None)

|     def all(self, nodes):
|         for n in nodes:
|             self.expr(n)

|     def expr(self, e):
|         self.line = e.lineno
|         ok, value = self.fold(e)
|         if ok:
|             return self.const(value)
|         kind = type(e).__name__
|         own = getattr(self, kind, None)
|         if own:
|             own(e)
|         else:
|             self.emit('LOAD_CONST', 0, None, '<code object>')
|             self.emit('MAKE_FUNCTION', 0, 0)

|     def Name(self, e):
|         self.name('LOAD', e.id)

|     def BinOp(self, e):
|         self.all([e.left, e.right])
|         i = _BINARY[type(e.op).__name__]
|         self.emit('BINARY_OP', i, i, _OPS[i])
|     do_Global = do_Nonlocal = lambda self, n: None

|     def instructions(self):
|         out = self.out
|         places, at = ([], 0)
|         for item in out:
|             places.append(at)
|             at += 2 + 2 * _PADS.get(item[0], 0)
|         places.append(at)
|         targets = «places[i[2][1]] for i in out if isinstance(i[2], tuple)
|             and i[2][:1] == ('to',)»
|         line = None
|         for item, at in zip(out, places):
|             name, arg, value, text, own, _ = item
|             if isinstance(value, tuple) and value[:1] == ('to',):
|                 value = places[value[1]]
|                 arg, text = (abs(value - at - 2) // 2, 'to %d' % value)
|             yield Instruction(name, opmap.get(name, 0), arg, value, text, at, own
|                 if own != line else None, at in targets)
|             line = own

| def _compiled(x):
|     if isinstance(x, (str, bytes)):
|         source = x if isinstance(x, str) else x.decode()
|         code = _Code()
|         code.emit('RESUME', 0, 0)
|         try:
|             tree = _ast.parse(source, mode='eval')
|         except SyntaxError:
|             body = _ast.parse(source).body
|             if any([isinstance(n, _ast.AnnAssign) for n in body]):
|                 code.line = body[0].lineno
|                 code.emit('SETUP_ANNOTATIONS')
|             code.body(body)
|             code.line = max(code.line, 1)
|             if code.out[-1][0] == 'NOP':
|                 code.out.pop()
|             code.const(None)
|         else:
|             code.expr(tree.body)
|         code.emit('RETURN_VALUE')
|         return _joined(code)
|     x = getattr(x, '__func__', x)
|     if not hasattr(x, '__code__'):
|         raise TypeError("don't know how to disassemble %s objects" % type(x).__name__)
|     from inspect import getsourcelines, cleandoc
|     lines, first = getsourcelines(x)
|     indent = len(lines[0]) - len(lines[0].lstrip())
|     tree = _ast.parse(''.join([l[indent:] if l.strip() else l for l in lines])).body[0]
|     _ast.increment_lineno(tree, first - 1)
|     if not hasattr(tree, 'args'):
|         tree = next((n for n in _ast.walk(tree) if isinstance(n, _ast.Lambda)))
|     code = _Code(list(x.__code__.co_varnames), [x.__doc__])
|     code.line = tree.lineno
|     code.emit('RESUME', 0, 0)
|     if isinstance(tree, _ast.Lambda):
|         code.expr(tree.body)
|         code.emit('RETURN_VALUE')
|     else:
|         code.body(tree.body)
|         if code.out[-1][0] != 'RETURN_VALUE' or any([i[2] == ('to', len(code.out))
|             for i in code.out]):
|             code.const(None)
|             code.emit('RETURN_VALUE')
|     return _joined(code)

| def _joined(code):
|     out = code.out
|     for i, item in enumerate(out):
|         if item[0] == 'JUMP_FORWARD' and item[2][1] < len(out) and (out[item[2][1]][0] == 'RETURN_VALUE'):
|             item[:4] = ['RETURN_VALUE', None, None, '']
|     return code

| def get_instructions(x, *, first_line=None, show_caches=False, adaptive=False):
|     return _compiled(x).instructions()

| def dis(x=None, *, file=None, depth=None, show_caches=False, adaptive=False):
|     if isinstance(x, type):
|         for name, held in sorted(x.__dict__.items()):
|             if hasattr(getattr(held, '__func__', held), '__code__'):
|                 print('Disassembly of %s:' % name, file=file)
|                 dis(held, file=file)
|                 print(file=file)
|         return
|     for i in get_instructions(x):
|         if i.starts_line is not None and i.offset > 0:
|             print(file=file)
|         line = '%3s' % ('' if i.starts_line is None else i.starts_line)
|         arg = '' if i.arg is None else '%5r' % i.arg
|         if i.argrepr:
|             arg += ' (' + i.argrepr + ')'
|         print(('%s     %s %4d %-20s %s' % (line, '>>' if i.is_jump_target else '  ', i.offset,
|             i.opname, arg)).rstrip(), file=file)
"#

/-- The module for tests of a program. -/
def unittestText : String := r#"
| import sys
| import re as _re
| from time import perf_counter as _now
| __unittest = True

| class SkipTest(Exception):
|     pass

| class _ShouldStop(Exception):
|     pass

| class _Raises:

|     def __init__(self, case, expected, pattern, args, kwargs):
|         self.case, self.expected, self.pattern = (case, expected, pattern)
|         self.msg, self.caller = (None if args else kwargs.pop('msg', None), '')

|     def __enter__(self):
|         return self

|     def __exit__(self, kind, value, tb):
|         if kind is None:
|             name = getattr(self.expected, '__name__', None) or str(self.expected)
|             self._fail(name + ' not raised' + self.caller)
|         if not issubclass(kind, self.expected):
|             return False
|         self.exception = value.with_traceback(None)
|         if self.pattern and (not _re.search(self.pattern, str(value))):
|             self._fail('"%s" does not match "%s"' % (_re.compile(self.pattern).pattern, value))
|         return True

| class TestCase:
|     failureException = AssertionError
|     longMessage = True
|     maxDiff = 640
|     _subtest = _result = None

|     def __init__(self, methodName='runTest'):
|         self._testMethodName = methodName
|         self._cleanups, self._equal = ([], «»)
|         method = getattr(self, methodName, None)
|         if method is None and methodName != 'runTest':
|             raise ValueError('no such test method in %s: %s' % (type(self), methodName))
|         self._testMethodDoc = method.__doc__ if method else 'No test'

|     @classmethod
|     def doClassCleanups(cls):
|         for function, args, kwargs in reversed(cls.__dict__.get('_class_cleanups', ())):
|             function(*args, **kwargs)

|     def setUp(self):
|         pass

|     def tearDown(self):
|         pass

|     @classmethod
|     def setUpClass(cls):
|         pass

|     @classmethod
|     def tearDownClass(cls):
|         pass

|     def _part(self, work):
|         try:
|             work()
|         except KeyboardInterrupt:
|             raise
|         except SkipTest as e:
|             self._passed = False
|             self._result.addSkip(self, str(e))
|         except _ShouldStop:
|             pass
|         except BaseException:
|             self._passed = False
|             self._report(self, sys.exc_info())

|     def run(self, result=None):
|         given = result
|         if given is None:
|             result = self.defaultTestResult()
|             result.startTestRun()
|         result.startTest(self)
|         try:
|             method = getattr(self, self._testMethodName)
|             for item in (type(self), method):
|                 if getattr(item, '__unittest_skip__', False):
|                     result.addSkip(self, getattr(item, '__unittest_skip_why__', ''))
|                     return result
|             expecting = getattr(self, '__unittest_expecting_failure__',
|                 False) or getattr(method, '__unittest_expecting_failure__', False)
|             self._result, self._passed, self._expected = (result, True, None)
|             self._expecting = False
|             self._part(self.setUp)
|             if self._passed:
|                 self._expecting = expecting
|                 self._part(lambda: self._called(method))
|                 self._expecting = False
|                 self._part(self.tearDown)
|             self.doCleanups()
|             if expecting and self._expected:
|                 result.addExpectedFailure(self, self._expected)
|             elif self._passed:
|                 if expecting:
|                     result.addUnexpectedSuccess(self)
|                 else:
|                     result.addSuccess(self)
|             return result
|         finally:
|             self._result = None
|             result.stopTest(self)
|             if given is None:
|                 result.stopTestRun()

|     def _called(self, method):
|         method()

|     def doCleanups(self):
|         while self._cleanups:
|             function, args, kwargs = self._cleanups.pop()
|             self._part(lambda: function(*args, **kwargs))

|     def __call__(self, *args, **kwds):
|         return self.run(*args, **kwds)

|     def _raised(self, expected, pattern, args, kwargs):
|         context = _Raises(self, expected, pattern, args, kwargs)
|         if not args:
|             return context
|         context.caller = ' by ' + getattr(args[0], '__name__', str(args[0]))
|         with context:
|             args[0](*args[1:], **kwargs)

|     def assertRaises(self, expected_exception, *args, **kwargs):
|         kinds = expected_exception if isinstance(expected_exception,
|             tuple) else (expected_exception,)
|         if not all([isinstance(k, type) and issubclass(k, BaseException) for k in kinds]):
|             raise TypeError('assertRaises() arg 1 must be an exception type or tuple of '
|     'exception types')
|         return self._raised(expected_exception, None, args, kwargs)

|     def assertEqual(self, first, second, msg=None):
|         if type(first) is type(second):
|             own = self._equal.get(type(first)) or _EQUAL.get(type(first))
|             if own is not None:
|                 return (getattr(self, own) if isinstance(own, str) else own)(first, second,
|                     msg=msg)
|         if not first == second:
|             self._failed(msg, '%s != %s' % _two(first, second))
| _EQUAL = «dict: 'assertDictEqual', list: 'assertListEqual', tuple: 'assertTupleEqual',
|     set: 'assertSetEqual', frozenset: 'assertSetEqual', str: 'assertMultiLineEqual'»

| def _define():
|     for name, test, text in (('True', lambda a: a, '%r is not true'), ('False', lambda a: not a,
|         '%r is not false'), ('IsNone', lambda a: a is None, '%r is not None'), ('IsNotNone',
|         lambda a: a is not None, 'unexpectedly None'), ('NotEqual', lambda a, b: a != b,
|         '%r == %r'), ('In', lambda a, b: a in b, '%r not found in %r'), ('NotIn', lambda a,
|         b: a not in b, '%r unexpectedly found in %r'), ('Is', lambda a, b: a is b,
|         '%r is not %r'), ('IsNot', lambda a, b: a is not b, 'unexpectedly identical: %r'),
|         ('Less', lambda a, b: a < b, '%r not less than %r'), ('LessEqual', lambda a, b: a <= b,
|         '%r not less than or equal to %r'), ('Greater', lambda a, b: a > b,
|         '%r not greater than %r'), ('GreaterEqual', lambda a, b: a >= b,
|         '%r not greater than or equal to %r'), ('IsInstance', lambda a, b: isinstance(a, b),
|         '%r is not an instance of %r'), ('NotIsInstance', lambda a, b: not isinstance(a, b),
|         '%r is an instance of %r')):

|         def made(test, text):

|             def one(self, expr, msg=None):
|                 if not test(expr):
|                     self._failed(msg, text % ((expr,) if '%' in text else ()))

|             def two(self, first, second, msg=None):
|                 if not test(first, second):
|                     self._failed(msg, text % (first, second)[:text.count('%')])
|             return one if test.__code__.co_argcount == 1 else two
|         setattr(TestCase, 'assert' + name, made(test, text))
| _define()
| TestCase.failUnless = TestCase.assert_ = TestCase.assertTrue
| TestCase.assertEquals = TestCase.assertEqual

| class _SubTest(TestCase):
|     pass

| class TestSuite:

|     def __init__(self, tests=()):
|         self._tests = []
|         self.addTests(tests)

|     def __iter__(self):
|         return iter(self._tests)

|     def addTest(self, test):
|         if not callable(test):
|             raise TypeError('%r is not callable' % (test,))
|         self._tests.append(test)

|     def addTests(self, tests):
|         if isinstance(tests, str):
|             raise TypeError('tests must be an iterable of tests, not a string')
|         for t in tests:
|             self.addTest(t)

|     def __call__(self, *args, **kwds):
|         return self.run(*args, **kwds)

|     def _moved(self, cls, result):
|         old = getattr(result, '_class', None)
|         if old is cls:
|             return
|         for kind, name in ((old, 'tearDownClass'), (cls, 'setUpClass')):
|             if kind is None or (name[0] == 't' and getattr(kind, '_broken',
|                 False)) or getattr(kind, '__unittest_skip__', False):
|                 continue
|             module = sys.modules.get(kind.__module__)
|             if name[0] == 's':
|                 kind._broken = False
|             try:
|                 if name[0] == 's' and (not getattr(result, '_module', None) == kind.__module__):
|                     result._module = kind.__module__
|                     getattr(module, 'setUpModule', int)()
|                 getattr(kind, name, int)()
|             except Exception as e:
|                 kind._broken = name[0] == 's'
|                 held = _ErrorHolder('%s (%s)' % (name, _class(kind)))
|                 if isinstance(e, SkipTest):
|                     result.addSkip(held, str(e))
|                 else:
|                     result.addError(held, sys.exc_info())
|             if name[0] == 't' and hasattr(kind, 'doClassCleanups'):
|                 kind.doClassCleanups()
|         result._class = cls

|     def run(self, result, debug=False):
|         top = not getattr(result, '_running', False)
|         result._running = True
|         for test in self:
|             if result.shouldStop:
|                 break
|             if not isinstance(test, TestSuite):
|                 self._moved(type(test), result)
|                 if getattr(type(test), '_broken', False):
|                     continue
|             test(result)
|         if top:
|             self._moved(None, result)
|             module = sys.modules.get(getattr(result, '_module', None))
|             getattr(module, 'tearDownModule', int)()
|             result._running = False
|         return result

| class _ErrorHolder:
|     failureException = None
|     __str__ = id

| class TestLoader:
|     testMethodPrefix = 'test'
|     suiteClass = TestSuite
|     testNamePatterns = None
|     errors = []

|     def getTestCaseNames(self, testCaseClass):
|         return sorted([n for n in dir(testCaseClass) if n.startswith(self.testMethodPrefix)
|             and callable(getattr(testCaseClass, n))])

|     def loadTestsFromTestCase(self, testCaseClass):
|         if issubclass(testCaseClass, TestSuite):
|             raise TypeError('Test cases should not be derived from TestSuite. Maybe you meant to '
|     'derive from TestCase?')
|         names = self.getTestCaseNames(testCaseClass)
|         if not names and hasattr(testCaseClass, 'runTest'):
|             names = ['runTest']
|         return self.suiteClass(map(testCaseClass, names))
| defaultTestLoader = TestLoader()

| class TestResult:

|     def __init__(self, stream=None, descriptions=None, verbosity=None):
|         self.failfast = self.shouldStop = self.buffer = self.tb_locals = False
|         self.failures, self.errors, self.skipped = ([], [], [])
|         self.expectedFailures, self.unexpectedSuccesses, self.testsRun = ([], [], 0)

|     def startTestRun(self):
|         pass

|     def stopTestRun(self):
|         pass

|     def startTest(self, test):
|         self.testsRun += 1
|         if self.buffer:
|             from io import StringIO
|             self._streams = (sys.stdout, sys.stderr)
|             sys.stdout, sys.stderr = (StringIO(), StringIO())

|     def stopTest(self, test):
|         if self.buffer:
|             sys.stdout, sys.stderr = self._streams

|     def addSuccess(self, test):
|         pass

|     def wasSuccessful(self):
|         return not (self.failures or self.errors or self.unexpectedSuccesses)
| TestCase.__module__ = 'unittest.case'
| TestSuite.__module__ = 'unittest.suite'
| TestResult.__module__ = 'unittest.result'

| class _Stream:

|     def __init__(self, stream):
|         self.stream = stream

|     def __getattr__(self, name):
|         return getattr(self.stream, name)

|     def writeln(self, text=None):
|         self.stream.write((text or '') + '\n')

| class TextTestResult(TestResult):
|     separator1 = '=' * 70
|     separator2 = '-' * 70

|     def __init__(self, stream, descriptions, verbosity):
|         super().__init__(stream, descriptions, verbosity)
|         self.stream, self.descriptions = (stream, descriptions)
|         self.showAll, self.dots, self._fresh = (verbosity > 1, verbosity == 1, True)

|     def startTest(self, test):
|         super().startTest(test)
|         if self.showAll:
|             self.stream.write(self.getDescription(test) + ' ... ')
|             self._fresh = False

|     def _show(self, test, word, dot):
|         if self.showAll:
|             inner = isinstance(test, _SubTest)
|             if inner or self._fresh:
|                 if not self._fresh:
|                     self.stream.writeln()
|                 self.stream.write('  ' * inner + self.getDescription(test) + ' ... ')
|             self.stream.writeln(word)
|             self._fresh = True
|         elif self.dots:
|             self.stream.write(dot)
|         self.stream.flush()

|     def addSuccess(self, test):
|         super().addSuccess(test)
|         self._show(test, 'ok', '.')

|     def printErrors(self):
|         line = self.stream.writeln
|         if self.dots or self.showAll:
|             line()
|         for flavour, found in (('ERROR', self.errors), ('FAIL', self.failures)):
|             for test, err in found:
|                 line(self.separator1)
|                 line('%s: %s' % (flavour, self.getDescription(test)))
|                 line(self.separator2)
|                 line(err)
|         if self.unexpectedSuccesses:
|             line(self.separator1)
|             for test in self.unexpectedSuccesses:
|                 line('UNEXPECTED SUCCESS: ' + self.getDescription(test))
| TextTestResult.__module__ = 'unittest.runner'

| class TextTestRunner:
|     resultclass = TextTestResult

|     def __init__(self, stream=None, descriptions=True, verbosity=1, failfast=False,
|         buffer=False, resultclass=None, warnings=None, *, tb_locals=False):
|         self.stream = _Stream(sys.stderr if stream is None else stream)
|         self.descriptions, self.verbosity = (descriptions, verbosity)
|         self.failfast, self.buffer = (failfast, buffer)
|         if resultclass is not None:
|             self.resultclass = resultclass

|     def _makeResult(self):
|         return self.resultclass(self.stream, self.descriptions, self.verbosity)

|     def run(self, test):
|         result = self._makeResult()
|         result.failfast, result.buffer = (self.failfast, self.buffer)
|         start = _now()
|         result.startTestRun()
|         try:
|             test(result)
|         finally:
|             result.stopTestRun()
|         taken = _now() - start
|         result.printErrors()
|         line, n = (self.stream.writeln, result.testsRun)
|         if hasattr(result, 'separator2'):
|             line(result.separator2)
|         line('Ran %d test%s in %.3fs' % (n, '' if n == 1 else 's', taken))
|         line()
|         failed = not result.wasSuccessful()
|         infos = ['%s=%d' % (name, len(found)) for name, found, wanted in (('failures',
|             result.failures, failed), ('errors', result.errors, failed), ('skipped',
|             result.skipped, True), ('expected failures', result.expectedFailures, True),
|             ('unexpected successes', result.unexpectedSuccesses, True)) if wanted and found]
|         line(('FAILED' if failed else 'OK') + (' (%s)' % ', '.join(infos) if infos else ''))
|         self.stream.flush()
|         return result

| class TestProgram:
|     pass
| TextTestRunner.__module__ = 'unittest.runner'
| main = TestProgram
"#

/-- The module for what a program runs on. -/
def platformText : String := r#"
| import sys

| def python_implementation():
|     return 'CPython'
"#

end Flowboard.Script.Prelude
