/-! Modules for numbers by chance, for quotients of integers, for numbers with decimal places,
for means and deviations, for functions of complex numbers, in the language of scripts. -/
namespace Flowboard.Script.Prelude

/-- The module for numbers by chance. -/
def randomText : String := r#"
| from _chance import make as _make, seed as _seed, real as _real, bits as _bits, below as _below, set as _set
| from math import log as _log, exp as _exp, ceil as _ceil, sqrt as _sqrt, cos as _cos, sin as _sin, tau as TWOPI
| from itertools import accumulate as _accumulate
| from bisect import bisect as _bisect
| from operator import index as _index
| from os import urandom as _urandom
| __all__ = ['Random', 'choice', 'gauss', 'randint', 'random', 'randrange', 'sample', 'seed',
|     'setstate', 'shuffle', 'uniform']
| NV_MAGICCONST = 4 * _exp(-0.5) / _sqrt(2.0)
| LOG4 = _log(4.0)
| SG_MAGICCONST = 1.0 + _log(4.5)
| _ONE = 1

| class Random:
|     VERSION = 3

|     def __init__(self, x=None):
|         self._place = _make()
|         self.gauss_next = None
|         self.seed(x)

|     def seed(self, a=None, version=2):
|         if version == 1 and isinstance(a, (str, bytes)):
|             a = a.decode('latin-1') if isinstance(a, bytes) else a
|             x = ord(a[0]) << 7 if a else 0
|             for c in map(ord, a):
|                 x = (1000003 * x ^ c) & 18446744073709551615
|             x ^= len(a)
|             a = -2 if x == -1 else x
|         elif version == 2 and isinstance(a, (str, bytes, bytearray)):
|             if isinstance(a, str):
|                 a = a.encode()
|             a = int.from_bytes(bytes(a) + _sha512(bytes(a)).digest(), 'big')
|         elif not isinstance(a, (type(None), int, float, str, bytes, bytearray)):
|             raise TypeError('The only supported seed types are: None,\n'
|        'int, float, str, bytes, and bytearray.')
|         if a is None:
|             a = int.from_bytes(_urandom(32), 'big')
|         if isinstance(a, float):
|             a = hash(a)
|         _seed(self._place, abs(int(a)))
|         self.gauss_next = None

|     def __init_subclass__(cls, /, **kwargs):
|         for c in cls.__mro__:
|             if '_randbelow' in c.__dict__:
|                 break
|             if 'getrandbits' in c.__dict__:
|                 cls._randbelow = cls._randbelow_with_getrandbits
|                 break
|             if 'random' in c.__dict__:
|                 cls._randbelow = cls._randbelow_without_getrandbits
|                 break

|     def random(self):
|         return _real(self._place)

|     def setstate(self, state):
|         version = state[0]
|         if version not in (2, 3):
|             raise ValueError('state with version %s passed to Random.setstate() of version %s'
|                 % (version, self.VERSION))
|         _, words, self.gauss_next = state
|         if len(words) != 625:
|             raise ValueError('state vector is the wrong size')
|         _set(self._place, tuple(words))

|     def _randbelow_with_getrandbits(self, n):
|         k = n.bit_length()
|         r = self.getrandbits(k)
|         while r >= n:
|             r = self.getrandbits(k)
|         return r

|     def _randbelow(self, n):
|         return _below(self._place, n)

|     def randrange(self, start, stop=None, step=_ONE):
|         try:
|             istart = _index(start)
|         except TypeError:
|             istart = int(start)
|             if istart != start:
|                 raise ValueError('non-integer arg 1 for randrange()')
|         if stop is None:
|             if step is not _ONE:
|                 raise TypeError('Missing a non-None stop argument')
|             if istart > 0:
|                 return self._randbelow(istart)
|             raise ValueError('empty range for randrange()')
|         try:
|             istop = _index(stop)
|         except TypeError:
|             istop = int(stop)
|             if istop != stop:
|                 raise ValueError('non-integer stop for randrange()')
|         width = istop - istart
|         try:
|             istep = _index(step)
|         except TypeError:
|             istep = int(step)
|             if istep != step:
|                 raise ValueError('non-integer step for randrange()')
|         if istep == 1:
|             if width > 0:
|                 return istart + self._randbelow(width)
|             raise ValueError('empty range for randrange() (%d, %d, %d)' % (istart, istop,
|                 width))
|         if istep > 0:
|             n = (width + istep - 1) // istep
|         elif istep < 0:
|             n = (width + istep + 1) // istep
|         else:
|             raise ValueError('zero step for randrange()')
|         if n <= 0:
|             raise ValueError('empty range for randrange()')
|         return istart + istep * self._randbelow(n)

|     def randint(self, a, b):
|         return self.randrange(a, b + 1)

|     def choice(self, seq):
|         if not len(seq):
|             raise IndexError('Cannot choose from an empty sequence')
|         return seq[self._randbelow(len(seq))]

|     def shuffle(self, x):
|         for i in reversed(range(1, len(x))):
|             j = self._randbelow(i + 1)
|             x[i], x[j] = (x[j], x[i])

|     def sample(self, population, k, *, counts=None):
|         if not hasattr(population, '__getitem__') or not hasattr(population,
|             '__len__') or isinstance(population, (dict, set, frozenset)):
|             raise TypeError('Population must be a sequence.  '
|        'For dicts or sets, use sorted(d).')
|         n = len(population)
|         if counts is not None:
|             sums = list(_accumulate(counts))
|             if len(sums) != n:
|                 raise ValueError('The number of counts does not match the population')
|             total = sums.pop()
|             if not isinstance(total, int):
|                 raise TypeError('Counts must be integers')
|             if total <= 0:
|                 raise ValueError('Total of counts must be greater than zero')
|             return [population[_bisect(sums, s)] for s in self.sample(range(total), k=k)]
|         if not 0 <= k <= n:
|             raise ValueError('Sample larger than population or is negative')
|         result = [None] * k
|         setsize = 21
|         if k > 5:
|             setsize += 4 ** _ceil(_log(k * 3, 4))
|         if n <= setsize:
|             pool = list(population)
|             for i in range(k):
|                 j = self._randbelow(n - i)
|                 result[i] = pool[j]
|                 pool[j] = pool[n - i - 1]
|         else:
|             selected = set()
|             for i in range(k):
|                 j = self._randbelow(n)
|                 while j in selected:
|                     j = self._randbelow(n)
|                 selected.add(j)
|                 result[i] = population[j]
|         return result

|     def uniform(self, a, b):
|         return a + (b - a) * self.random()

|     def gauss(self, mu=0.0, sigma=1.0):
|         z = self.gauss_next
|         self.gauss_next = None
|         if z is None:
|             x2pi = self.random() * TWOPI
|             g2rad = _sqrt(-2.0 * _log(1.0 - self.random()))
|             z = _cos(x2pi) * g2rad
|             self.gauss_next = _sin(x2pi) * g2rad
|         return mu + z * sigma
| _inst = Random()
| seed = _inst.seed
| random = _inst.random
| uniform = _inst.uniform
| randint = _inst.randint
| choice = _inst.choice
| randrange = _inst.randrange
| sample = _inst.sample
| shuffle = _inst.shuffle
| gauss = _inst.gauss
| setstate = _inst.setstate
"#

/-- The module for quotients of integers. -/
def fractionsText : String := r#"
| from decimal import Decimal
| from math import gcd as _gcd, isnan as _isnan, isinf as _isinf
| from numbers import Rational as _Rational
| from re import compile as _compile
| __all__ = ['Fraction']
| _format = _compile(r'''
|     \A\s*(?P<sign>[-+]?)(?=\d|\.\d)(?P<num>\d*|\d+(_\d+)*)
|     (?:(?:/(?P<denom>\d+(_\d+)*))?
|     |(?:\.(?P<decimal>\d*|\d+(_\d+)*))?(?:E(?P<exp>[-+]?\d+(_\d+)*))?)
|     \s*\Z''', 66)

| class Fraction(_Rational):
|     __slots__ = ('_numerator', '_denominator')

|     def __new__(cls, numerator=0, denominator=None):
|         self = object.__new__(cls)
|         if denominator is None:
|             if type(numerator) is int:
|                 return self._of(numerator, 1)
|             if isinstance(numerator, Fraction) or isinstance(numerator, _Rational):
|                 return self._of(numerator.numerator, numerator.denominator)
|             if isinstance(numerator, int):
|                 return self._of(int(numerator), 1)
|             if isinstance(numerator, (float, Decimal)):
|                 return self._of(*numerator.as_integer_ratio())
|             if isinstance(numerator, str):
|                 m = _format.match(numerator)
|                 if m is None:
|                     raise ValueError('Invalid literal for Fraction: %r' % numerator)
|                 num = int(m.group('num') or '0')
|                 denom = m.group('denom')
|                 if denom:
|                     denom = int(denom)
|                 else:
|                     denom = 1
|                     decimal = m.group('decimal')
|                     if decimal:
|                         decimal = decimal.replace('_', '')
|                         scale = 10 ** len(decimal)
|                         num = num * scale + int(decimal)
|                         denom *= scale
|                     exp = m.group('exp')
|                     if exp:
|                         exp = int(exp)
|                         if exp >= 0:
|                             num *= 10 ** exp
|                         else:
|                             denom *= 10 ** (-exp)
|                 if m.group('sign') == '-':
|                     num = -num
|                 numerator, denominator = (num, denom)
|             else:
|                 raise TypeError('argument should be a string or a Rational instance')
|         elif isinstance(numerator, int) and isinstance(denominator, int):
|             pass
|         elif isinstance(numerator, (int, _Rational)) and isinstance(denominator, (int,
|             _Rational)):
|             numerator, denominator = (numerator.numerator * denominator.denominator,
|                 denominator.numerator * numerator.denominator)
|         else:
|             raise TypeError('both arguments should be Rational instances')
|         if denominator == 0:
|             raise ZeroDivisionError('Fraction(%s, 0)' % numerator)
|         g = _gcd(numerator, denominator)
|         if denominator < 0:
|             g = -g
|         return self._of(numerator // g, denominator // g)

|     def _of(self, n, d):
|         self._numerator = n
|         self._denominator = d
|         return self

|     def limit_denominator(self, max_denominator=1000000):
|         if max_denominator < 1:
|             raise ValueError('max_denominator should be at least 1')
|         if self._denominator <= max_denominator:
|             return Fraction(self)
|         p0, q0, p1, q1 = (0, 1, 1, 0)
|         n, d = (self._numerator, self._denominator)
|         while True:
|             a = n // d
|             q2 = q0 + a * q1
|             if q2 > max_denominator:
|                 break
|             p0, q0, p1, q1 = (p1, q1, p0 + a * p1, q2)
|             n, d = (d, n - a * d)
|         k = (max_denominator - q0) // q1
|         bound1 = Fraction(p0 + k * p1, q0 + k * q1)
|         bound2 = Fraction(p1, q1)
|         if abs(bound2 - self) <= abs(bound1 - self):
|             return bound2
|         return bound1

|     @property
|     def numerator(self):
|         return self._numerator

|     @property
|     def denominator(self):
|         return self._denominator

|     def __str__(self):
|         if self._denominator == 1:
|             return str(self._numerator)
|         return '%s/%s' % (self._numerator, self._denominator)

|     def __add__(a, b):
|         return _forward(a, b, _add, float.__add__, complex.__add__)

|     def __radd__(b, a):
|         return _reverse(b, a, _add, float.__add__, complex.__add__)

|     def __sub__(a, b):
|         return _forward(a, b, _sub, float.__sub__, complex.__sub__)

|     def __mul__(a, b):
|         return _forward(a, b, _mul, float.__mul__, complex.__mul__)

|     def __rmul__(b, a):
|         return _reverse(b, a, _mul, float.__mul__, complex.__mul__)

|     def __truediv__(a, b):
|         return _forward(a, b, _div, float.__truediv__, complex.__truediv__)

|     def __rtruediv__(b, a):
|         return _reverse(b, a, _div, float.__truediv__, complex.__truediv__)

|     def __floordiv__(a, b):
|         return _forward(a, b, _floordiv, float.__floordiv__, None)

|     def __mod__(a, b):
|         return _forward(a, b, _mod, float.__mod__, None)

|     def __neg__(a):
|         return Fraction(-a._numerator, a._denominator)

|     def __abs__(a):
|         return Fraction(abs(a._numerator), a._denominator)

|     def __int__(a):
|         return a.__trunc__()

|     def __float__(a):
|         return a._numerator / a._denominator

|     def __trunc__(a):
|         if a._numerator < 0:
|             return -(-a._numerator // a._denominator)
|         return a._numerator // a._denominator

|     def __round__(self, ndigits=None):
|         if ndigits is None:
|             floor, remainder = divmod(self._numerator, self._denominator)
|             if remainder * 2 < self._denominator:
|                 return floor
|             if remainder * 2 > self._denominator:
|                 return floor + 1
|             return floor if floor % 2 == 0 else floor + 1
|         shift = 10 ** abs(ndigits)
|         if ndigits > 0:
|             return Fraction(round(self * shift), shift)
|         return Fraction(round(self / shift) * shift)

|     def _compare(self, other, op):
|         if isinstance(other, (int, _Rational)):
|             return op(self._numerator * other.denominator, self._denominator * other.numerator)
|         if isinstance(other, float):
|             if _isnan(other) or _isinf(other):
|                 return op(0.0, other)
|             return op(self, Fraction(other))
|         return NotImplemented

|     def __le__(a, b):
|         return a._compare(b, lambda x, y: x <= y)

| def _add(a, b):
|     return Fraction(a.numerator * b.denominator + b.numerator * a.denominator,
|         a.denominator * b.denominator)

| def _sub(a, b):
|     return Fraction(a.numerator * b.denominator - b.numerator * a.denominator,
|         a.denominator * b.denominator)

| def _mul(a, b):
|     return Fraction(a.numerator * b.numerator, a.denominator * b.denominator)

| def _div(a, b):
|     return Fraction(a.numerator * b.denominator, a.denominator * b.numerator)

| def _floordiv(a, b):
|     return a.numerator * b.denominator // (a.denominator * b.numerator)

| def _mod(a, b):
|     da, db = (a.denominator, b.denominator)
|     return Fraction(a.numerator * db % (b.numerator * da), da * db)

| def _forward(a, b, exact, real, other):
|     if isinstance(b, (int, Fraction)):
|         return exact(a, b)
|     if isinstance(b, float):
|         return real(float(a), b)
|     if isinstance(b, complex) and other is not None:
|         return other(complex(a), b)
|     return NotImplemented

| def _reverse(b, a, exact, real, other):
|     if isinstance(a, (int, _Rational)):
|         return exact(a, b)
|     if isinstance(a, float):
|         return real(a, float(b))
|     if isinstance(a, complex) and other is not None:
|         return other(a, complex(b))
|     return NotImplemented
"#

/-- The module for numbers with decimal places. -/
def decimalText : String := r#"
| from math import isqrt as _isqrt
| from numbers import Number as _Number, Rational as _Rational
| from re import compile as _compile
| from contextvars import ContextVar as _ContextVar
| from collections import namedtuple as _namedtuple
| _roundings = ['ROUND_' + _s for _s in ('CEILING', 'FLOOR', 'UP', 'DOWN', 'HALF_UP', 'HALF_DOWN',
|     'HALF_EVEN', '05UP')]
| for _s in _roundings:
|     globals()[_s] = _s
| MAX_PREC = MAX_EMAX = 999999999999999999
| MIN_EMIN = -MAX_EMAX
| __version__, __libmpdec_version__ = ('1.70', '2.5.1')
| DecimalTuple = _namedtuple('DecimalTuple', 'sign digits exponent', module='decimal')
| for _s in '''DecimalException ArithmeticError;Clamped DecimalException;InvalidOperation
| DecimalException;ConversionSyntax InvalidOperation;DivisionByZero DecimalException
| ZeroDivisionError;DivisionImpossible InvalidOperation;DivisionUndefined InvalidOperation
| ZeroDivisionError;Inexact DecimalException;InvalidContext InvalidOperation;Rounded
| DecimalException;Subnormal DecimalException;Overflow Inexact Rounded;Underflow Inexact Rounded
| Subnormal;FloatOperation DecimalException TypeError'''.split(';'):
|     _s, *_bases = _s.split()
|     globals()[_s] = type(_s, tuple(map(eval, _bases)), «'__module__': 'decimal'»)
| _signals = [InvalidOperation, FloatOperation, DivisionByZero, Overflow, Underflow, Subnormal,
|     Inexact, Rounded, Clamped]
| _shown = [Clamped, InvalidOperation, DivisionByZero, Inexact, FloatOperation, Overflow, Rounded,
|     Subnormal, Underflow]

| class SignalDict(dict):
|     pass

| def _marks(marks):
|     if isinstance(marks, SignalDict):
|         return marks
|     return SignalDict([(s, bool(marks.get(s)) if isinstance(marks, dict) else s in marks)
|         for s in _signals])
| _ranges = dict(prec=(1, MAX_PREC, '[1, MAX_PREC]'), Emin=(MIN_EMIN, 0, '[MIN_EMIN, 0]'),
|     Emax=(0, MAX_EMAX, '[0, MAX_EMAX]'), capitals=(0, 1, ''), clamp=(0, 1, ''))
| _standard = dict(prec=28, rounding=ROUND_HALF_EVEN, Emin=-999999, Emax=999999, capitals=1,
|     clamp=0, flags=[], traps=[DivisionByZero, Overflow, InvalidOperation])

| class Context:

|     def __init__(self, prec=None, rounding=None, Emin=None, Emax=None, capitals=None,
|         clamp=None, flags=None, traps=None):
|         base = globals().get('DefaultContext')
|         for (name, usual), v in zip(_standard.items(), (prec, rounding, Emin, Emax, capitals,
|             clamp, flags, traps)):
|             if v is None:
|                 v = getattr(base, name) if base and name != 'flags' else usual
|             if name in ('flags', 'traps'):
|                 v = SignalDict(_marks(v))
|             setattr(self, name, v)

|     def __setattr__(self, name, v):
|         if name in _ranges:
|             low, high, text = _ranges[name]
|             if not isinstance(v, int):
|                 raise TypeError('an integer is required')
|             if not low <= v <= high:
|                 raise ValueError('valid range for %s is %s' % (name, text) if text
|                     else 'valid values for %s are 0 or 1' % name)
|         elif name == 'rounding':
|             _rounding_checked(v)
|         elif name in ('flags', 'traps'):
|             v = _marks(v)
|         else:
|             raise AttributeError("'decimal.Context' object has no attribute '%s'" % name)
|         self.__dict__[name] = v

|     def copy(self):
|         return Context(*[getattr(self, n) for n in _standard])
|     __copy__ = copy

|     def _nearest(self):
|         c = self.copy()
|         c.rounding, c.flags = (ROUND_HALF_EVEN, self.flags)
|         return c

|     def _raise(self, *conditions):
|         signals = [InvalidOperation if c in (ConversionSyntax, DivisionImpossible,
|             DivisionUndefined) else c for c in conditions]
|         for s in signals:
|             self.flags[s] = True
|         for s in _signals:
|             if s in signals and self.traps[s]:
|                 raise s([c for c, t in zip(conditions, signals) if self.traps[t]])
|         return _special('n', 0, '')

|     def Etiny(self):
|         return self.Emin - self.prec + 1

|     def Etop(self):
|         return self.Emax - self.prec + 1

| def _rounding_checked(v):
|     if v not in _roundings:
|         raise TypeError('valid values for rounding are:\n  [ROUND_CEILING, ROUND_FLOOR, '
|    'ROUND_UP, ROUND_DOWN,\n   ROUND_HALF_UP, ROUND_HALF_DOWN, ROUND_HALF_EVEN,\n'
|    '   ROUND_05UP]')
|     return v

| def _define():
|     for row in '''abs:__abs__ compare exp ln log10 max min minus:__neg__ normalize plus:__pos__
|             quantize scaleb sqrt to_integral_exact to_integral_value is_normal is_subnormal
|             to_eng_string next_plus next_minus remainder_near logb
|             number_class fma add:__add__ subtract:__sub__ multiply:__mul__ divide:__truediv__
|             divide_int:__floordiv__ remainder:__mod__ divmod:__divmod__ copy_abs copy_negate
|             copy_sign is_finite is_infinite is_nan is_qnan is_signed is_snan is_zero
|             same_quantum to_sci_string:_text copy_decimal:_same'''.split():
|         name, _, method = row.partition(':')

|         def call(self, a, *others, method=method or name):
|             named = «» if method[:3] in ('cop', 'is_', 'sam') and method not in ('is_normal',
|                 'is_subnormal') else «'context': self»
|             return getattr(_converted(a), method)(*[_converted(b) for b in others], **named)
|         call.__name__ = name
|         setattr(Context, name, call)
|     Context.to_integral = Context.to_integral_value
| _define()
| _parse = _compile(r'(?i)([-+])?(?:(?=\d|\.\d)(\d*)(?:\.(\d*))?(?:E([-+]?\d+))?|Inf(?:inity)?|'
|  r'(s)?(NaN)(\d*))\Z')

| def _special(exp, sign=0, digits='0', kind=None):
|     self = object.__new__(kind or Decimal)
|     self._sign, self._int, self._exp, self._is_special = (sign, digits, exp, exp in ('F', 'n',
|         'N'))
|     return self

| def _new(sign, digits, exp):
|     return _special(exp, sign, str(digits))

| def _other(v):
|     return v if isinstance(v, Decimal) else Decimal(v) if isinstance(v, int) else NotImplemented

| def _converted(v):
|     found = _other(v)
|     if found is NotImplemented:
|         raise TypeError('conversion from %s to Decimal is not supported' % type(v).__name__)
|     return found

| def _binary(f, convert=_other):

|     def call(self, other, context=None):
|         other = convert(other)
|         if other is NotImplemented:
|             return other
|         context = context or getcontext()
|         if self._is_special or other._is_special:
|             found = self._check_nans(context, other)
|             if found is not None:
|                 return found
|         return f(self, other, context)
|     return call

| def _unary(f):

|     def call(self, context=None):
|         context = context or getcontext()
|         found = self._check_nans(context) if self._is_special else None
|         return f(self, context) if found is None else found
|     return call

| def _reflected(name):

|     def call(self, other, context=None):
|         other = _other(other)
|         return other if other is NotImplemented else getattr(other, name)(self, context)
|     return call

| def _ordering(test):

|     def call(self, other):
|         a, b = self._compared(other, True)
|         if b is NotImplemented:
|             return b
|         if a.is_nan() or b.is_nan():
|             getcontext()._raise(InvalidOperation)
|             return False
|         return test(a._cmp(b))
|     return call

| class Decimal:
|     __slots__ = ('_exp', '_int', '_sign', '_is_special')

|     def __new__(cls, value='0', context=None):
|         if isinstance(value, str):
|             m = _parse.match(value.strip().replace('_', ''))
|             if m is None:
|                 return (context or getcontext())._raise(ConversionSyntax)
|             sign, whole, part, exp, signal, nan, diag = m.groups()
|             sign = int(sign == '-')
|             if whole is not None:
|                 part = part or ''
|                 return _special(int(exp or '0') - len(part), sign, str(int(whole + part)), cls)
|             if nan:
|                 return _special('N' if signal else 'n', sign, diag.lstrip('0'), cls)
|             return _special('F', sign, '0', cls)
|         if isinstance(value, int):
|             return _special(0, int(value < 0), str(abs(int(value))), cls)
|         if isinstance(value, Decimal):
|             return _special(value._exp, value._sign, value._int, cls)
|         if isinstance(value, (list, tuple)):
|             if len(value) != 3:
|                 raise ValueError('argument must be a sequence of length 3')
|             sign, digits, exp = value
|             if not (isinstance(sign, int) and sign in (0, 1)):
|                 raise ValueError('sign must be an integer with the value 0 or 1')
|             if exp == 'F':
|                 return _special('F', sign, '0', cls)
|             if not isinstance(exp, int) and exp not in ('n', 'N'):
|                 raise ValueError("string argument in the third position must be 'F', 'n' or 'N'")
|             if not isinstance(digits, (tuple, list)) or not all([isinstance(d, int)
|                 and 0 <= d <= 9 for d in digits]):
|                 raise ValueError('coefficient must be a tuple of digits')
|             text = ''.join(map(str, digits)).lstrip('0')
|             return _special(exp, sign, text if exp in ('n', 'N') else text or '0', cls)
|         if isinstance(value, float):
|             (context or getcontext())._raise(FloatOperation)
|             return cls.from_float(value)
|         raise TypeError('conversion from %s to Decimal is not supported' % type(value).__name__)

|     def __bool__(self):
|         return self._is_special or self._int != '0'

|     def _cmp(self, other):

|         def key(d):
|             return (-1 if d._sign else 1) * (2 if d._exp == 'F' else int(bool(d)))
|         a, b = (key(self), key(other))
|         if a != b or a in (0, 2, -2):
|             return (a > b) - (a < b)
|         a, b = (self.adjusted(), other.adjusted())
|         if a == b:
|             a = self._int + '0' * (self._exp - other._exp)
|             b = other._int + '0' * (other._exp - self._exp)
|         return ((a > b) - (a < b)) * (-1 if self._sign else 1)

|     def _compared(self, other, ordered):
|         if isinstance(other, (Decimal, int)):
|             return (self, _other(other))
|         if not ordered and isinstance(other, complex) and (other.imag == 0):
|             other = other.real
|         if isinstance(other, float):
|             context = getcontext()
|             context.flags[FloatOperation] = True
|             if ordered and context.traps[FloatOperation]:
|                 raise FloatOperation([FloatOperation])
|             return (self, Decimal.from_float(other))
|         if isinstance(other, _Rational):
|             if self._is_special:
|                 return (self, Decimal(0))
|             return (_new(self._sign, int(self._int) * other.denominator, self._exp),
|                 Decimal(other.numerator))
|         return (self, NotImplemented)

|     def __eq__(self, other):
|         a, b = self._compared(other, False)
|         if b is NotImplemented:
|             return b
|         if 'N' in (a._exp, b._exp):
|             getcontext()._raise(InvalidOperation)
|         return not (a.is_nan() or b.is_nan()) and a._cmp(b) == 0
|     __lt__, __le__ = (_ordering(lambda c: c < 0), _ordering(lambda c: c <= 0))
|     __gt__, __ge__ = (_ordering(lambda c: c > 0), _ordering(lambda c: c >= 0))

|     def __str__(self, eng=False, context=None):
|         sign = '-' if self._sign else ''
|         if self._is_special:
|             return sign + «'F': 'Infinity', 'n': 'NaN' + self._int, 'N': 'sNaN'
|                 + self._int»[self._exp]
|         left = self._exp + len(self._int)
|         if self._exp <= 0 and left > -6:
|             place = left
|         elif not eng:
|             place = 1
|         else:
|             place = (left + 1) % 3 - 1 if self._int == '0' else (left - 1) % 3 + 1
|         whole, part = self._parts(place)
|         return sign + whole + ('.' + part if part else '') + ('' if left == place
|             else 'eE'[(context or getcontext()).capitals] + '%+d' % (left - place))

|     def _parts(self, place):
|         text = '0' * -place + self._int + '0' * (place - len(self._int))
|         return (text[:max(place, 0)] or '0', text[max(place, 0):])

|     @_binary
|     def __add__(self, other, context):
|         if self._is_special or other._is_special:
|             if self._exp == other._exp == 'F' and self._sign != other._sign:
|                 return context._raise(InvalidOperation)
|             return Decimal(self if self._exp == 'F' else other)
|         a, b = (self, other) if self._exp >= other._exp else (other, self)
|         exp, p = (b._exp, context.prec)
|         negative = context.rounding == ROUND_FLOOR and self._sign != other._sign
|         if not a and (not b):
|             return _new(1 if negative else min(a._sign, b._sign), '0', exp)._fix(context)
|         if not a or not b:
|             v = a or b
|             return v._rescale(max(exp, v._exp - p - 1), context.rounding)._fix(context)
|         low, floor = (int(b._int), a._exp + min(-1, len(a._int) - p - 2))
|         if b.adjusted() < floor:
|             low, exp = (1, floor)
|         n = int(a._int) * 10 ** (a._exp - exp) * (-1 if a._sign else 1) + low * (-1 if b._sign
|             else 1)
|         return _new(int(n < 0 or (n == 0 and negative)), abs(n), exp)._fix(context)
|     __radd__ = __add__
|     __rsub__ = _reflected('__sub__')

|     @_binary
|     def __mul__(self, other, context):
|         product = self._times(other)
|         return context._raise(InvalidOperation) if product is None else product._fix(context)

|     def _times(self, other):
|         sign = self._sign ^ other._sign
|         if self._is_special or other._is_special:
|             return _special('F', sign) if self and other else None
|         return _new(sign, int(self._int) * int(other._int), self._exp + other._exp)
|     __rmul__ = __mul__

|     def _undivided(self, other, context):
|         if self._exp == 'F' and other._exp == 'F':
|             return context._raise(InvalidOperation)
|         if self._exp == 'F':
|             return _special('F', self._sign ^ other._sign)
|         if not other:
|             context._raise(DivisionByZero if self else DivisionUndefined)
|             return _special('F', self._sign ^ other._sign) if self else _special('n', 0, '')

|     @_binary
|     def __truediv__(self, other, context):
|         sign, found = (self._sign ^ other._sign, self._undivided(other, context))
|         if found is not None:
|             return found
|         if other._exp == 'F':
|             context._raise(Clamped)
|             return _new(sign, '0', context.Etiny())
|         exp = ideal = self._exp - other._exp
|         if not self:
|             return _new(sign, '0', exp)._fix(context)
|         shift = len(other._int) - len(self._int) + context.prec + 1
|         q, r = divmod(int(self._int) * 10 ** max(shift, 0), int(other._int) * 10 ** max(-shift,
|             0))
|         exp -= shift
|         if r:
|             q += q % 5 == 0
|         while not r and exp < ideal and (q % 10 == 0):
|             q //= 10
|             exp += 1
|         return _new(sign, q, exp)._fix(context)
|     __rtruediv__ = _reflected('__truediv__')
|     __rdivmod__ = _reflected('__divmod__')
|     __rmod__ = _reflected('__mod__')
|     __rfloordiv__ = _reflected('__floordiv__')

|     def _fix(self, context):
|         if self._is_special:
|             return self._fix_nan(context) if self._exp == 'n' else Decimal(self)
|         tiny, top = (context.Etiny(), context.Etop())
|         if not self:
|             exp = min(max(self._exp, tiny), top if context.clamp else context.Emax)
|             if exp != self._exp:
|                 context._raise(Clamped)
|             return _new(self._sign, '0', exp)
|         least = len(self._int) + self._exp - context.prec
|         if least > top:
|             return self._overflowed(context)
|         subnormal = least < tiny
|         least = max(least, tiny)
|         if self._exp < least:
|             self, changed = self._cut(least, context.rounding)
|             if len(self._int) > context.prec:
|                 self = _new(self._sign, self._int[:-1], self._exp + 1)
|             if self._exp > top:
|                 return self._overflowed(context)
|             context._raise(*[s for s, held in ((Underflow, changed and subnormal), (Subnormal,
|                 subnormal), (Inexact, changed), (Rounded, True), (Clamped, not self)) if held])
|             return self
|         if subnormal:
|             context._raise(Subnormal)
|         if context.clamp and self._exp > top:
|             context._raise(Clamped)
|             return _new(self._sign, self._int + '0' * (self._exp - top), top)
|         return self if type(self) is Decimal else Decimal(self)

|     def _cut(self, exp, rounding):
|         keep = len(self._int) + self._exp - exp
|         kept = self._int[:max(keep, 0)] or '0'
|         rest = ('0' * -keep + self._int[max(keep, 0):]).rstrip('0')
|         up = rest and «ROUND_DOWN: False, ROUND_UP: True, ROUND_HALF_UP: rest >= '5',
|             ROUND_HALF_DOWN: rest > '5', ROUND_CEILING: not self._sign, ROUND_FLOOR: self._sign,
|             ROUND_HALF_EVEN: rest > '5' or (rest == '5' and kept[-1] in '13579'),
|             ROUND_05UP: kept[-1] in '05'»[rounding]
|         return (_new(self._sign, int(kept) + 1 if up else kept, exp), bool(rest))

|     def _rescale(self, exp, rounding):
|         if self._is_special:
|             return Decimal(self)
|         if not self:
|             return _new(self._sign, '0', exp)
|         if self._exp >= exp:
|             return _new(self._sign, self._int + '0' * (self._exp - exp), exp)
|         return self._cut(exp, rounding)[0]

|     def quantize(self, exp, rounding=None, context=None):
|         exp, context = (_converted(exp), context or getcontext())
|         rounding = context.rounding if rounding is None else _rounding_checked(rounding)
|         if self._is_special or exp._is_special:
|             found = self._check_nans(context, exp)
|             if found is None:
|                 found = Decimal(self) if exp._exp == self._exp == 'F' else context._raise(InvalidOperation)
|             return found
|         if not context.Etiny() <= exp._exp <= context.Emax or (self
|             and (self.adjusted() > context.Emax or self.adjusted() - exp._exp
|             + 1 > context.prec)):
|             return context._raise(InvalidOperation)
|         found = self._rescale(exp._exp, rounding)
|         if found.adjusted() > context.Emax or len(found._int) > context.prec:
|             return context._raise(InvalidOperation)
|         if found and found.adjusted() < context.Emin:
|             context._raise(Subnormal)
|         if self and found._exp > self._exp:
|             context._raise(*([Inexact] if found._cmp(self) else []), Rounded)
|         return found._fix(context)

|     @_unary
|     def sqrt(self, context):
|         if not self:
|             return _new(self._sign, '0', self._exp >> 1)._fix(context)
|         if self._sign:
|             return context._raise(InvalidOperation)
|         if self._exp == 'F':
|             return Decimal(self)
|         e, c = (self._exp >> 1, int(self._int) * (10 if self._exp & 1 else 1))
|         shift = context.prec + 1 - (len(str(c)) + 1 >> 1)
|         c, rest = divmod(c * 100 ** max(shift, 0), 100 ** max(-shift, 0))
|         n = _isqrt(c)
|         e -= shift
|         if rest or n * n != c:
|             n += n % 5 == 0
|         else:
|             n = n * 10 ** max(-shift, 0) // 10 ** max(shift, 0)
|             e += shift
|         return _new(0, n, e)._fix(context._nearest())

|     def adjusted(self):
|         return 0 if self._is_special else self._exp + len(self._int) - 1
|     imag = property(lambda self: _zero)

|     def is_nan(self):
|         return self._exp in ('n', 'N')
| _spec = _compile(r'(?s)(?:(.)?([<>=^]))?([-+ ])?(z)?(\#)?(0)?((?!0)\d+)?(,)?'
|  r'(?:\.(0|(?!0)\d+))?([eEfFgGn%])?\Z')
| _zero, _one, _ten = (Decimal(0), Decimal(1), Decimal(10))
| DefaultContext = Context()
| BasicContext = Context(9, ROUND_HALF_UP, traps=[DivisionByZero, Overflow, InvalidOperation,
|     Clamped, Underflow])
| ExtendedContext = Context(9, traps=[])
| _current = _ContextVar('decimal_context')

| def getcontext():
|     context = _current.get(None)
|     if context is None:
|         context = DefaultContext.copy()
|         _current.set(context)
|     return context
| _Number.register(Decimal)
| setattr(Decimal, '.title', 'decimal.Decimal')
| setattr(Context, '.title', 'decimal.Context')
"#

/-- The module for means and deviations. -/
def statisticsText : String := r#"
| from collections import Counter as _Counter, namedtuple as _namedtuple
| from decimal import Decimal as _Decimal
| from fractions import Fraction as _Fraction
| from math import exp as _exp, fsum as _fsum, isqrt as _isqrt, log as _log, sqrt as _sqrt
| from numbers import Real as _Real
| __all__ = ['StatisticsError', 'correlation', 'harmonic_mean', 'mean', 'median_low', 'multimode',
|     'pvariance', 'quantiles', 'stdev']

| class StatisticsError(ValueError):
|     pass

| def _common(a, b):
|     if a is b or b in (int, bool):
|         return a
|     if a is int or issubclass(b, a):
|         return b
|     if issubclass(a, b):
|         return a
|     if issubclass(a, int):
|         return b
|     if issubclass(b, int):
|         return a
|     if issubclass(a, _Fraction) and issubclass(b, float):
|         return b
|     if issubclass(a, float) and issubclass(b, _Fraction):
|         return a
|     raise TypeError("don't know how to coerce %s and %s" % (a.__name__, b.__name__))

| def _ratio(x):
|     try:
|         return x.as_integer_ratio()
|     except AttributeError:
|         pass
|     except (OverflowError, ValueError):
|         return (x, None)
|     try:
|         return (x.numerator, x.denominator)
|     except AttributeError:
|         raise TypeError("can't convert type '%s' to numerator/denominator"
|             % type(x).__name__) from None

| def _kind_of(kinds):
|     kind = int
|     for k in kinds:
|         kind = _common(kind, k)
|     return kind

| def _sums(data):
|     count = 0
|     kinds = []
|     firsts = dict()
|     seconds = dict()
|     for x in data:
|         if type(x) not in kinds:
|             kinds.append(type(x))
|         n, d = _ratio(x)
|         count += 1
|         firsts[d] = firsts.get(d, 0) + n
|         seconds[d] = seconds.get(d, 0) + n * n
|     return (kinds, count, firsts, seconds)

| def _sum(data):
|     kinds, count, firsts, _ = _sums(data)
|     if None in firsts:
|         total = firsts[None]
|     else:
|         total = sum([_Fraction(n, d) for d, n in firsts.items()])
|     return (_kind_of(kinds), total, count)

| def _deviations(data, centre=None):
|     if centre is not None:
|         kind, total, count = _sum([(x - centre) * (x - centre) for x in data])
|         return (kind, total, centre, count)
|     kinds, count, firsts, seconds = _sums(data)
|     if not count:
|         total = centre = _Fraction(0)
|     elif None in firsts:
|         total = centre = firsts[None]
|     else:
|         s = sum([_Fraction(n, d) for d, n in firsts.items()])
|         q = sum([_Fraction(n, d * d) for d, n in seconds.items()])
|         total = (count * q - s * s) / count
|         centre = s / count
|     return (_kind_of(kinds), total, centre, count)

| def _as(value, kind):
|     if type(value) is kind:
|         return value
|     if issubclass(kind, int) and value.denominator != 1:
|         kind = float
|     try:
|         return kind(value)
|     except TypeError:
|         if issubclass(kind, _Decimal):
|             return kind(value.numerator) / kind(value.denominator)
|         raise

| def _not_negative(values, message):
|     for x in values:
|         if x < 0:
|             raise StatisticsError(message)
|     return values

| def _odd_root(n, m):
|     a = _isqrt(n // m)
|     return a | (a * a * m != n)

| def _float_root(n, m):
|     q = (n.bit_length() - m.bit_length() - 109) // 2
|     if q >= 0:
|         return (_odd_root(n, m << 2 * q) << q) / 1
|     return _odd_root(n << -2 * q, m) / (1 << -q)

| def _root(value, kind):
|     if issubclass(kind, _Decimal):
|         return _decimal_root(value.numerator, value.denominator)
|     return _float_root(value.numerator, value.denominator)

| def mean(data):
|     kind, total, n = _sum(data)
|     if n < 1:
|         raise StatisticsError('mean requires at least one data point')
|     return _as(total / n, kind)

| def harmonic_mean(data, weights=None):
|     if iter(data) is data:
|         data = list(data)
|     message = 'harmonic mean does not support negative values'
|     n = len(data)
|     if n < 1:
|         raise StatisticsError('harmonic_mean requires at least one data point')
|     if n == 1 and weights is None:
|         x = data[0]
|         if not isinstance(x, (_Real, _Decimal)):
|             raise TypeError('unsupported type')
|         if x < 0:
|             raise StatisticsError(message)
|         return x
|     if weights is None:
|         weights = [1] * n
|         all_weights = n
|     else:
|         weights = list(weights)
|         if len(weights) != n:
|             raise StatisticsError('Number of weights does not match data size')
|         all_weights = _sum(_not_negative(weights, message))[1]
|     try:
|         kind, total, _ = _sum([w / x if w else 0 for w, x in zip(weights, _not_negative(data,
|             message))])
|     except ZeroDivisionError:
|         return 0
|     if total <= 0:
|         raise StatisticsError('Weighted sum must be positive')
|     return _as(all_weights / total, kind)

| def _ordered(data):
|     data = sorted(data)
|     if not data:
|         raise StatisticsError('no median for empty data')
|     return (data, len(data))

| def median_low(data):
|     data, n = _ordered(data)
|     return data[(n - 1) // 2]

| def multimode(data):
|     counts = _Counter(iter(data))
|     if not counts:
|         return []
|     most = max(counts.values())
|     return [value for value, count in counts.items() if count == most]

| def quantiles(data, *, n=4, method='exclusive'):
|     if n < 1:
|         raise StatisticsError('n must be at least 1')
|     data = sorted(data)
|     size = len(data)
|     if size < 2:
|         raise StatisticsError('must have at least two data points')
|     result = []
|     if method == 'inclusive':
|         for i in range(1, n):
|             j, delta = divmod(i * (size - 1), n)
|             result.append((data[j] * (n - delta) + data[j + 1] * delta) / n)
|         return result
|     if method == 'exclusive':
|         for i in range(1, n):
|             j = min(max(i * (size + 1) // n, 1), size - 1)
|             delta = i * (size + 1) - j * n
|             result.append((data[j - 1] * (n - delta) + data[j] * delta) / n)
|         return result
|     raise ValueError('Unknown method: %r' % (method,))

| def pvariance(data, mu=None):
|     kind, total, _, n = _deviations(data, mu)
|     if n < 1:
|         raise StatisticsError('pvariance requires at least one data point')
|     return _as(total / n, kind)

| def stdev(data, xbar=None):
|     kind, total, _, n = _deviations(data, xbar)
|     if n < 2:
|         raise StatisticsError('stdev requires at least two data points')
|     return _root(total / (n - 1), kind)

| def _pairs(x, y, what):
|     n = len(x)
|     if len(y) != n:
|         raise StatisticsError(what
|             + ' requires that both inputs have same number of data points')
|     if n < 2:
|         raise StatisticsError(what + ' requires at least two data points')
|     return (n, _fsum(x) / n, _fsum(y) / n)

| def _products(x, y, a, b):
|     return _fsum([(p - a) * (q - b) for p, q in zip(x, y)])

| def correlation(x, y, /):
|     n, a, b = _pairs(x, y, 'correlation')
|     xy = _products(x, y, a, b)
|     xx = _products(x, x, a, a)
|     yy = _products(y, y, b, b)
|     try:
|         return xy / _sqrt(xx * yy)
|     except ZeroDivisionError:
|         raise StatisticsError('at least one of the inputs is constant')
| LinearRegression = _namedtuple('LinearRegression', ('slope', 'intercept'))
| _ROOT = _sqrt(2.0)
"#

/-- The module for functions of complex numbers. -/
def cmathText : String := r#"
| _m = __import__('math')
| pi, e, tau, inf, nan = (_m.pi, _m.e, _m.tau, _m.inf, _m.nan)
| infj = complex(0.0, inf)
| nanj = complex(0.0, nan)
| _large = 1.7976931348623157e+308 / 4
| _root_large = _m.sqrt(_large)
| _least = 2.2250738585072014e-308
| _root_least = _m.sqrt(_least)

| def _parts(z):
|     if not isinstance(z, complex):
|         if isinstance(z, (int, float)):
|             z = complex(z)
|         elif hasattr(type(z), '__complex__') or hasattr(type(z),
|             '__float__') or hasattr(type(z), '__index__'):
|             z = complex(z)
|         else:
|             raise TypeError('must be real number, not %s' % type(z).__name__)
|     return (z.real, z.imag)

| def _length(x, y):
|     return abs(complex(x, y))

| def _finite(x, y):
|     return _m.isfinite(x) and _m.isfinite(y)

| def _sqrt(x, y):
|     if not _finite(x, y):
|         if _m.isinf(y):
|             return (inf, y)
|         if _m.isnan(x):
|             return (x, y if _m.isnan(y) else nan)
|         if _m.isinf(x):
|             if x > 0:
|                 return (inf, nan if _m.isnan(y) else _m.copysign(0.0, y))
|             return (nan, inf) if _m.isnan(y) else (0.0, _m.copysign(inf, y))
|         return (nan, nan)
|     if x == 0.0 and y == 0.0:
|         return (0.0, y)
|     ax, ay = (abs(x), abs(y))
|     if ax < _least and ay < _least:
|         ax = _m.ldexp(ax, 53)
|         s = _m.ldexp(_m.sqrt(ax + _length(ax, _m.ldexp(ay, 53))), -27)
|     else:
|         ax /= 8.0
|         s = 2.0 * _m.sqrt(ax + _length(ax, ay / 8.0))
|     d = ay / (2.0 * s)
|     if x >= 0.0:
|         return (s, _m.copysign(d, y))
|     return (d, _m.copysign(s, y))

| def sqrt(z, /):
|     return complex(*_sqrt(*_parts(z)))

| def phase(z, /):
|     x, y = _parts(z)
|     return _m.atan2(y, x)
"#

end Flowboard.Script.Prelude
