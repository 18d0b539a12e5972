/-! Modules for enumerations and flags, for the types of values and simple holders of names, for
classes that only describe other classes, for classes that are made from their fields, for tuples
whose places have names, for kinds of numbers, for tuples with names for their places, for
collections that are built from other collections, for what collections can do, for functions on
functions, for managers around blocks, for references that do not keep objects, for variables of a
context, in the language of scripts. -/
namespace Flowboard.Script.Prelude

def enumText : String := r#"
| __all__ = ['EnumType', 'Enum', 'IntEnum', 'StrEnum', 'Flag', 'IntFlag', 'ReprEnum', 'auto',
|     'property', 'member', 'nonmember', 'FlagBoundary', 'STRICT', 'CONFORM', 'EJECT', 'KEEP',
|     'EnumCheck']
| Enum = Flag = ReprEnum = EnumCheck = EJECT = None
| _property = property
| _function = type(lambda: None)

| class nonmember:
|     pass

| class member:
|     pass

| class auto:

|     def __init__(self, value=None):
|         self.value = value
|         self.open = value is None

| class property:

|     def __init__(self, fget=None, fset=None, fdel=None, doc=None):
|         self.fget = fget
|         self.fset = fset

|     def __set_name__(self, owner, name):
|         self.name = name
|         self.owner = owner.__name__

|     def __get__(self, instance, owner=None):
|         if instance is None:
|             found = owner._member_map_.get(self.name)
|             if found is None:
|                 raise AttributeError('%r has no attribute %r' % (owner, self.name))
|             return found
|         return self.fget(instance)

| def _is_descriptor(x):
|     if isinstance(x, (_function, staticmethod, classmethod, _property)):
|         return True
|     return not isinstance(x, type) and hasattr(type(x), '__get__')

| def _is_dunder(name):
|     return len(name) > 4 and name[:2] == name[-2:] == '__' and (name[2] != '_') and (name[-3] != '_')

| def _is_sunder(name):
|     return len(name) > 2 and name[0] == name[-1] == '_' and (name[1] != '_') and (name[-2] != '_')

| class _Space(dict):

|     def __init__(self):
|         super().__init__()
|         self.names = []
|         self.last = []
|         self.skipped = []
|         self.generate = None

|     def __setitem__(self, key, value):
|         if _is_sunder(key):
|             if key not in ('_order_', '_generate_next_value_', '_numeric_repr_', '_missing_',
|                 '_ignore_', '_iter_member_', '_iter_member_by_value_', '_iter_member_by_def_'):
|                 raise ValueError('_sunder_ names, such as %r, are reserved' % (key,))
|             if key == '_generate_next_value_':
|                 if self.names:
|                     raise TypeError('_generate_next_value_ must be defined before members')
|                 self.generate = value.__func__ if isinstance(value, staticmethod) else value
|             elif key == '_ignore_':
|                 if isinstance(value, str):
|                     value = value.replace(',', ' ').split()
|                 self.skipped = list(value)
|                 taken = set(value) & set(self.names)
|                 if taken:
|                     raise ValueError('_ignore_ cannot specify already set names: %r' % (taken,))
|         elif _is_dunder(key):
|             pass
|         elif key in self.names:
|             raise TypeError('%r already defined as %r' % (key, self[key]))
|         elif key in self.skipped:
|             pass
|         elif isinstance(value, nonmember):
|             value = value.value
|         elif _is_descriptor(value):
|             pass
|         else:
|             if key in self:
|                 raise TypeError('%r already defined as %r' % (key, self[key]))
|             if isinstance(value, member):
|                 value = value.value
|             if isinstance(value, auto):
|                 if value.open:
|                     value.value = self.generate(key, 1, len(self.names), self.last[:])
|                 value = value.value
|             elif isinstance(value, tuple) and any((isinstance(v, auto) for v in value)):
|                 parts = []
|                 for v in value:
|                     if isinstance(v, auto):
|                         if v.open:
|                             v.value = self.generate(key, 1, len(self.names), self.last[:])
|                         v = v.value
|                     parts.append(v)
|                 value = tuple(parts)
|             self.names.append(key)
|             self.last.append(value)
|         super().__setitem__(key, value)

| def _bits(n):
|     while n:
|         low = n & ~n + 1
|         yield low
|         n ^= low

| class EnumType(type):

|     @classmethod
|     def __prepare__(metacls, cls, bases, **kwds):
|         for base in bases:
|             if isinstance(base, EnumType) and base._member_names_:
|                 raise TypeError('<enum %r> cannot extend %r' % (cls, base))
|         space = _Space()
|         space.title = cls
|         data, first = metacls._mixins(bases)
|         if first is not None:
|             space['_generate_next_value_'] = first._generate_next_value_
|         return space

|     @staticmethod
|     def _mixins(bases):
|         if not bases:
|             return (object, Enum)
|         first = bases[-1]
|         if Enum is not None and (not isinstance(first, EnumType)):
|             raise TypeError('new enumerations should be created as '
|     '`EnumName([mixin_type, ...] [data_type,] enum_type)`')
|         data = object
|         for chain in bases:
|             for base in chain.__mro__:
|                 if base is object or isinstance(base, EnumType):
|                     if isinstance(base, EnumType) and base._data_type_ is not object:
|                         data = base._data_type_
|                         break
|                     continue
|                 if base in (int, float, str, bytes, tuple, complex, list, dict, frozenset, set):
|                     data = base
|                     break
|                 if '__new__' in base.__dict__:
|                     data = base
|                     break
|             if data is not object:
|                 break
|         return (data, first)

|     def __new__(metacls, cls, bases, space, *, boundary=None, **kwds):
|         if Enum is None:
|             made = super().__new__(metacls, cls, bases, space)
|             made._member_names_ = []
|             made._member_map_ = dict()
|             made._value2member_map_ = dict()
|             made._data_type_ = object
|             return made
|         data, first = metacls._mixins(bases)
|         names = space.names
|         values = [space[name] for name in names]
|         body = dict()
|         for key, value in space.items():
|             if key not in names and key not in space.skipped and (key != '_ignore_'):
|                 body[key] = value
|         invalid = set(names) & set(['mro', ''])
|         if invalid:
|             raise ValueError('invalid enum member name(s) %s' % ', '.join((repr(n)
|                 for n in invalid)))
|         order = body.pop('_order_', None)
|         body['_member_names_'] = []
|         body['_member_map_'] = dict()
|         body['_value2member_map_'] = dict()
|         body['_unhashable_values_'] = []
|         body['_data_type_'] = data
|         if Flag is not None and issubclass(first, Flag):
|             body['_boundary_'] = boundary or getattr(first, '_boundary_', None)
|             body['_flag_mask_'] = 0
|             body['_all_bits_'] = 0
|         if ReprEnum is not None and ReprEnum in bases:
|             if '__str__' not in body:
|                 body['__str__'] = int.__repr__ if data is int else data.__str__
|             if '__format__' not in body:
|                 body['__format__'] = data.__format__
|         generate = body.get('_generate_next_value_')
|         if isinstance(generate, _function):
|             body['_generate_next_value_'] = staticmethod(generate)
|         made = super().__new__(metacls, cls, bases, body, **kwds)
|         for key in ('__repr__', '__str__', '__format__'):
|             if key not in body:
|                 for c in made.__mro__:
|                     if c is data:
|                         if c is not object:
|                             type.__setattr__(made, key, getattr(first, key))
|                         break
|                     if key in c.__dict__:
|                         break
|         if Flag is not None and issubclass(first, Flag):
|             for key in ('__or__', '__and__', '__xor__', '__ror__', '__rand__', '__rxor__',
|                 '__invert__'):
|                 if key not in body and data is int:
|                     type.__setattr__(made, key, getattr(Flag, key))
|         new = None
|         for base in made.__mro__:
|             if base is object or base is data:
|                 break
|             if '__new__' in base.__dict__ and base is not Enum and (base is not Flag):
|                 new = base.__dict__['__new__'].__func__
|                 break
|         seen = []
|         for name, value in zip(names, values):
|             args = value if isinstance(value, tuple) else (value,)
|             if data is tuple:
|                 args = (args,)
|             if new is not None:
|                 item = new(made, *args)
|             elif data is object:
|                 item = object.__new__(made)
|             else:
|                 item = data.__new__(made, *args)
|             if '_value_' not in item.__dict__:
|                 if data is object:
|                     item._value_ = value
|                 elif new is not None and data not in (int, float, str, bytes, tuple, complex):
|                     item._value_ = value
|                 else:
|                     item._value_ = data(*args)
|             value = item._value_
|             item._name_ = name
|             item.__objclass__ = made
|             item._sort_order_ = len(made._member_names_)
|             item.__init__(*args)
|             known = None
|             for other in seen:
|                 if other._value_ == value:
|                     known = other
|                     break
|             if known is None:
|                 seen.append(item)
|                 canonical = True
|                 if Flag is not None and issubclass(made, Flag):
|                     if isinstance(value, int):
|                         made._all_bits_ = made._all_bits_ | (1 << value.bit_length()) - 1
|                         if value > 0 and value & value - 1 == 0:
|                             made._flag_mask_ = made._flag_mask_ | value
|                         else:
|                             canonical = False
|                             made._flag_mask_ = made._flag_mask_ | value
|                 if canonical:
|                     made._member_names_.append(name)
|                 try:
|                     made._value2member_map_[value] = item
|                 except TypeError:
|                     made._unhashable_values_.append((value, item))
|             else:
|                 item = known
|             made._member_map_[name] = item
|             type.__setattr__(made, name, item)
|         if order is not None:
|             if isinstance(order, str):
|                 order = order.replace(',', ' ').split()
|             if order != made._member_names_:
|                 raise TypeError('member order does not match _order_:\n  %r\n  %r'
|                     % (made._member_names_, order))
|         if Flag is not None and issubclass(made, Flag):
|             named = sorted((made._member_map_[n] for n in made._member_names_),
|                 key=lambda m: m._value_)
|             if [m._name_ for m in named] != made._member_names_:
|                 made._iter_by_def_ = True
|         return made

|     def __init__(cls, *args, **kwds):
|         pass

|     def __call__(cls, value, names=None, *, module=None, qualname=None, type=None, start=1,
|         boundary=None):
|         if names is None:
|             return cls._lookup(value)
|         bases = (cls,) if type is None else (type, cls)
|         space = EnumType.__prepare__(value, bases)
|         if isinstance(names, str):
|             names = names.replace(',', ' ').split()
|         if isinstance(names, (tuple, list)) and names and isinstance(names[0], str):
|             made = []
|             for count, name in enumerate(names):
|                 made.append((name, cls._generate_next_value_(name, start, count, [v for _,
|                     v in made])))
|             names = made
|         for item in names:
|             if isinstance(item, str):
|                 name, v = (item, names[item])
|             else:
|                 name, v = item
|             space[name] = v
|         space['__module__'] = module or '__main__'
|         return EnumType.__new__(EnumType, value, bases, space, boundary=boundary)

|     def _lookup(cls, value):
|         if type(value) is cls:
|             return value
|         try:
|             return cls._value2member_map_[value]
|         except KeyError:
|             pass
|         except TypeError:
|             for v, item in cls._unhashable_values_:
|                 if v == value:
|                     return item
|         problem = None
|         try:
|             result = cls._missing_(value)
|         except Exception as e:
|             problem = e
|             result = None
|         if isinstance(result, cls) or (Flag is not None and issubclass(cls, Flag)
|             and (cls._boundary_ is EJECT) and isinstance(result, int)):
|             return result
|         wrong = ValueError('%r is not a valid %s' % (value, cls.__qualname__))
|         if result is None and problem is None:
|             raise wrong
|         if problem is None:
|             problem = TypeError('error in %s._missing_: returned %r instead of None or a valid '
|     'member' % (cls.__name__, result))
|         raise problem

|     def __getattr__(cls, name):
|         if _is_dunder(name):
|             raise AttributeError(name)
|         try:
|             return cls.__dict__['_member_map_'][name]
|         except KeyError:
|             raise AttributeError(name) from None

|     def __getitem__(cls, name):
|         return cls._member_map_[name]

|     def __iter__(cls):
|         return iter([cls._member_map_[name] for name in cls._member_names_])

|     @_property
|     def __members__(cls):
|         from types import MappingProxyType
|         return MappingProxyType(cls._member_map_)

|     def __setattr__(cls, name, value):
|         if name in cls.__dict__.get('_member_map_', ()):
|             raise AttributeError('cannot reassign member %r' % (name,))
|         super().__setattr__(name, value)

| class Enum(metaclass=EnumType):

|     def __init__(self, *args, **kwds):
|         pass

|     @staticmethod
|     def _generate_next_value_(name, start, count, last_values):
|         if not last_values:
|             return start
|         try:
|             last = sorted(last_values)[-1]
|             return last + 1
|         except TypeError:
|             pass
|         for last in reversed(last_values):
|             try:
|                 return last + 1
|             except TypeError:
|                 pass
|         return start

|     def __repr__(self):
|         v = self._value_
|         return '<%s.%s: %s>' % (self.__class__.__name__, self._name_,
|             type(self)._data_type_.__repr__(v) if type(self)._data_type_ is not object
|             else repr(v))

|     def __str__(self):
|         return '%s.%s' % (self.__class__.__name__, self._name_)

|     @property
|     def name(self):
|         return self._name_

|     @property
|     def value(self):
|         return self._value_

| class ReprEnum(Enum):
|     pass

| class IntEnum(int, ReprEnum):
|     pass

| class StrEnum(str, ReprEnum):

|     def __new__(cls, *values):
|         if len(values) > 3:
|             raise TypeError('too many arguments for str(): %r' % (values,))
|         if len(values) == 1 and (not isinstance(values[0], str)):
|             raise TypeError('%r is not a string' % (values[0],))
|         value = str(*values)
|         item = str.__new__(cls, value)
|         item._value_ = value
|         return item

|     @staticmethod
|     def _generate_next_value_(name, start, count, last_values):
|         return name.lower()

| class FlagBoundary(StrEnum):
|     STRICT = auto()
|     CONFORM = auto()
|     EJECT = auto()
|     KEEP = auto()
| STRICT, CONFORM, EJECT, KEEP = FlagBoundary

| class Flag(Enum):

|     @classmethod
|     def _missing_(cls, value):
|         if not isinstance(value, int):
|             raise ValueError('%r is not a valid %s' % (value, cls.__qualname__))
|         mask = cls._flag_mask_
|         every = cls._all_bits_
|         if not ~every <= value <= every or value & (every ^ mask):
|             if cls._boundary_ is STRICT:
|                 width = max(value.bit_length(), mask.bit_length())
|                 raise ValueError('%r invalid value %r\n    given %s\n  allowed %s' % (cls,
|                     value, _show(value, width), _show(mask, width)))
|             if cls._boundary_ is CONFORM:
|                 value = value & mask
|             elif cls._boundary_ is EJECT:
|                 return value
|             elif cls._boundary_ is KEEP:
|                 if value < 0:
|                     value = max(every + 1, 2 ** value.bit_length()) + value
|         if value < 0:
|             value = value & mask if cls._boundary_ is not KEEP else every + 1 + value
|         if value in cls._value2member_map_:
|             return cls._value2member_map_[value]
|         data = cls._data_type_
|         item = object.__new__(cls) if data is object else data.__new__(cls, value)
|         item._value_ = value
|         names = []
|         rest = value
|         for m in cls._iter_value(value):
|             names.append(m._name_)
|             rest &= ~m._value_
|         if names:
|             item._name_ = '|'.join(names)
|             if rest:
|                 item._name_ += '|%s' % rest
|         else:
|             item._name_ = None
|         cls._value2member_map_[value] = item
|         return item

|     @classmethod
|     def _iter_value(cls, value):
|         found = []
|         for bit in _bits(value & cls._flag_mask_):
|             m = cls._value2member_map_.get(bit)
|             if m is not None:
|                 found.append(m)
|         if getattr(cls, '_iter_by_def_', False):
|             found.sort(key=lambda m: m._sort_order_)
|         return found

|     def __str__(self):
|         if self._name_ is None:
|             return '%s(%r)' % (self.__class__.__name__, self._value_)
|         return '%s.%s' % (self.__class__.__name__, self._name_)

|     def _other(self, flag):
|         if isinstance(flag, self.__class__):
|             return flag._value_
|         data = type(self)._data_type_
|         if data is not object and isinstance(flag, data):
|             return flag
|         return NotImplemented

|     def __or__(self, other):
|         other = self._other(other)
|         if other is NotImplemented:
|             return NotImplemented
|         return self.__class__(self._value_ | other)

|     def __and__(self, other):
|         other = self._other(other)
|         if other is NotImplemented:
|             return NotImplemented
|         return self.__class__(self._value_ & other)

|     def __xor__(self, other):
|         other = self._other(other)
|         if other is NotImplemented:
|             return NotImplemented
|         return self.__class__(self._value_ ^ other)

|     def __invert__(self):
|         if self._boundary_ is KEEP:
|             return self.__class__(~self._value_)
|         return self.__class__(self._flag_mask_ & ~self._value_)
|     __ror__ = __or__
|     __rand__ = __and__
|     __rxor__ = __xor__
| Flag._boundary_ = STRICT

| class IntFlag(int, ReprEnum, Flag, boundary=KEEP):
|     pass
"#

/-- The module for the types of values and simple holders of names. -/
def typesText : String := r#"
| from sys import _generic_alias as GenericAlias

| def _gives():
|     yield 1

| async def _waits():
|     pass

| async def _gives_later():
|     yield 1

| class _Empty:

|     def method(self):
|         pass
| FunctionType = LambdaType = type(_gives)
| GeneratorType = type(_gives())
| _waiting = _waits()
| CoroutineType = type(_waiting)
| _waiting.close()
| AsyncGeneratorType = type(_gives_later())
| MethodType = type(_Empty().method)
| BuiltinFunctionType = BuiltinMethodType = type(len)
| NoneType = type(None)
| NotImplementedType = type(NotImplemented)
| UnionType = type(int | str)

| class SimpleNamespace:

|     def __init__(self, /, **kwargs):
|         self.__dict__.update(kwargs)

|     def __repr__(self):
|         name = 'namespace' if type(self) is SimpleNamespace else type(self).__name__
|         return name + '(' + ', '.join(['%s=%r' % (k, v) for k,
|             v in self.__dict__.items()]) + ')'

| class mappingproxy:

|     def __init__(self, mapping):
|         self._held = mapping

|     def __getitem__(self, key):
|         return self._held[key]

|     def keys(self):
|         return self._held.keys()

|     def values(self):
|         return self._held.values()
| mappingproxy.__module__ = 'builtins'
| MappingProxyType = mappingproxy
"#

/-- The module for classes that only describe other classes. -/
def abcText : String := r#"
| class ABCMeta(type):

|     def __new__(mcls, name, bases, namespace, /, **kwargs):
|         cls = super().__new__(mcls, name, bases, namespace, **kwargs)
|         missing = set()
|         for key, value in namespace.items():
|             if getattr(value, '__isabstractmethod__', False):
|                 missing.add(key)
|         for base in bases:
|             for key in getattr(base, '__abstractmethods__', ()):
|                 value = getattr(cls, key, None)
|                 if getattr(value, '__isabstractmethod__', False):
|                     missing.add(key)
|             if isinstance(base, ABCMeta):
|                 base._abc_children.append(cls)
|         cls.__abstractmethods__ = frozenset(missing)
|         cls._abc_registry = []
|         cls._abc_children = []
|         return cls

|     def register(cls, subclass):
|         if not isinstance(subclass, type):
|             raise TypeError('Can only register classes')
|         if not issubclass(subclass, cls):
|             if issubclass(cls, subclass):
|                 raise RuntimeError('Refusing to create an inheritance cycle')
|             cls._abc_registry.append(subclass)
|         return subclass

|     def __instancecheck__(cls, instance):
|         return cls.__subclasscheck__(instance.__class__)

|     def __subclasscheck__(cls, subclass):
|         if not isinstance(subclass, type):
|             raise TypeError('issubclass() arg 1 must be a class')
|         ok = cls.__subclasshook__(subclass)
|         if ok is not NotImplemented:
|             return ok
|         if cls in subclass.__mro__:
|             return True
|         for other in cls._abc_registry:
|             if issubclass(subclass, other):
|                 return True
|         for other in cls._abc_children:
|             if issubclass(subclass, other):
|                 return True
|         return False

| class ABC(metaclass=ABCMeta):
|     __slots__ = ()
"#

/-- The module for classes that are made from their fields. -/
def dataclassesText : String := r#"
| import operator as _operator
| from types import GenericAlias, MappingProxyType
| __all__ = ('dataclass field Field FrozenInstanceError InitVar KW_ONLY MISSING fields asdict '
|  'astuple make_dataclass replace is_dataclass').split()

| class FrozenInstanceError(AttributeError):
|     pass

| class _Sign:

|     def __init__(self, name):
|         self.name = name

|     def __repr__(self):
|         return self.name

| class _MISSING_TYPE:
|     pass

| class _KW_ONLY_TYPE:
|     pass
| MISSING, KW_ONLY, _HAS_DEFAULT_FACTORY = (_MISSING_TYPE(), _KW_ONLY_TYPE(), _Sign('<factory>'))
| _FIELD, _FIELD_CLASSVAR, _FIELD_INITVAR = map(_Sign, ('_FIELD', '_FIELD_CLASSVAR',
|     '_FIELD_INITVAR'))
| _FIELDS, _PARAMS = ('__dataclass_fields__', '__dataclass_params__')

| class InitVar:
|     pass

| class _Record:

|     def __init__(self, *values):
|         for name, value in zip(self._names, values):
|             setattr(self, name, value)

| class Field(_Record):
|     _names = 'default default_factory init repr hash compare metadata kw_only'.split()
|     _shown = ['name', 'type'] + _names + ['_field_type']
|     name = type = _field_type = None

| class _DataclassParams(_Record):
|     _names = _shown = 'init repr eq order unsafe_hash frozen'.split()

| def field(*, default=MISSING, default_factory=MISSING, init=True, repr=True, hash=None,
|     compare=True, metadata=None, kw_only=MISSING):
|     if default is not MISSING and default_factory is not MISSING:
|         raise ValueError('cannot specify both default and default_factory')
|     return Field(default, default_factory, init, repr, hash, compare, MappingProxyType(«»
|         if metadata is None else metadata), kw_only)

| def _kind(note):
|     if isinstance(note, str):
|         head = note.partition('[')[0].rpartition('.')[2]
|         return dict(ClassVar=_FIELD_CLASSVAR, InitVar=_FIELD_INITVAR).get(head, _FIELD)
|     if getattr(note, '_is_classvar', False):
|         return _FIELD_CLASSVAR
|     return _FIELD_INITVAR if note is InitVar or type(note) is InitVar else _FIELD

| def _field(cls, name, note, kw_only):
|     f = getattr(cls, name, MISSING)
|     if not isinstance(f, Field):
|         f = field(default=MISSING if name in cls.__dict__.get('__slots__', ()) else f)
|     f.name, f.type, f._field_type = (name, note, _kind(note))
|     if f._field_type is not _FIELD and f.default_factory is not MISSING:
|         raise TypeError('field %s cannot have a default factory' % name)
|     if f._field_type is not _FIELD_CLASSVAR:
|         f.kw_only = kw_only if f.kw_only is MISSING else f.kw_only
|     elif f.kw_only is not MISSING:
|         raise TypeError('field %s is a ClassVar but specifies kw_only' % name)
|     if f._field_type is _FIELD and f.default.__class__.__hash__ is None:
|         raise ValueError('mutable default %s for field %s is not allowed: use default_factory'
|             % (type(f.default), name))
|     return f

| def _required(f):
|     return f.default is MISSING and f.default_factory is MISSING

| def _init_fn(cls, every, std, named, frozen):
|     late = False
|     for f in std:
|         if late and _required(f):
|             raise TypeError('non-default argument %r follows default argument' % f.name)
|         late = late or not _required(f)
|     me = '__dataclass_self__' if any([f.name == 'self' for f in every]) else 'self'
|     space, body = (dict(_factory=_HAS_DEFAULT_FACTORY, _set=object.__setattr__), [])
|     for f in every:
|         name, made = (f.name, f.default_factory is not MISSING)
|         space['_dflt_' + name] = f.default_factory if made else f.default
|         if f._field_type is _FIELD and (made or f.init):
|             value = name if not made else '_dflt_%s()' % name if not f.init else '_dflt_%s() if %s is _factory else %s' % (name, name, name)
|             body.append('_set(%s, %r, %s)' % (me, name, value) if frozen else '%s.%s = %s'
|                 % (me, name, value))
|     if hasattr(cls, '__post_init__'):
|         body.append('%s.__post_init__(%s)' % (me, ', '.join([f.name for f in every
|             if f._field_type is _FIELD_INITVAR])))

|     def shown(fields):
|         return [f.name if _required(f) else '%s=%s' % (f.name, '_dflt_' + f.name
|             if f.default is not MISSING else '_factory') for f in fields]
|     exec('def __init__(%s):\n  %s' % (', '.join([me] + shown(std) + ['*'] * bool(named)
|         + shown(named)), '\n  '.join(body or ['pass'])), space)
|     made = space['__init__']
|     made.__annotations__ = «**«f.name: f.type for f in std + named», 'return': None»
|     return made

| def _repr_fn(names):
|     running = []

|     def __repr__(self):
|         if id(self) in running:
|             return '...'
|         running.append(id(self))
|         try:
|             return self.__class__.__qualname__ + '(' + ', '.join(['%s=%r' % (n, getattr(self,
|                 n)) for n in names]) + ')'
|         finally:
|             running.remove(id(self))
|     __repr__._of_fields = True
|     return __repr__

| def _values(self, names):
|     return tuple([getattr(self, n) for n in names])

| def _comparison(names, name):
|     compare = getattr(_operator, name)

|     def own(self, other):
|         if other.__class__ is self.__class__:
|             return compare(_values(self, names), _values(other, names))
|         return NotImplemented
|     return own

| def _frozen_fn(cls, names, name, what):

|     def own(self, name, *value):
|         if type(self) is cls or name in names:
|             raise FrozenInstanceError('cannot %s field %r' % (what, name))
|         getattr(super(cls, self), own.__name__)(name, *value)
|     return own

| def _add(cls, name, value, message=None):
|     if name in cls.__dict__:
|         if message:
|             raise TypeError('Cannot overwrite attribute %s in class %s%s' % (name, cls.__name__,
|                 message.rstrip()))
|         return
|     if callable(value):
|         value.__name__, value.__qualname__ = (name, cls.__qualname__ + '.' + name)
|         value.__module__ = cls.__module__
|     setattr(cls, name, value)

| def _process(cls, init, repr, eq, order, unsafe_hash, frozen, match_args, kw_only, slots):
|     fields, bases, kw_seen = («», [], False)
|     setattr(cls, _PARAMS, _DataclassParams(init, repr, eq, order, unsafe_hash, frozen))
|     for b in reversed(cls.__mro__[1:]):
|         if hasattr(b, _FIELDS):
|             fields.update(getattr(b, _FIELDS))
|             bases.append(getattr(b, _PARAMS).frozen)
|     notes, own = (cls.__dict__.get('__annotations__', «»), [])
|     for name, note in notes.items():
|         if note is KW_ONLY or (isinstance(note, str) and note in ('KW_ONLY',
|             'dataclasses.KW_ONLY')):
|             if kw_seen:
|                 raise TypeError('%r is KW_ONLY, but KW_ONLY has already been specified' % name)
|             kw_seen = kw_only = True
|         else:
|             own.append(_field(cls, name, note, kw_only))
|     for f in own:
|         fields[f.name] = f
|         if isinstance(cls.__dict__.get(f.name), Field):
|             if f.default is MISSING:
|                 delattr(cls, f.name)
|             else:
|                 setattr(cls, f.name, f.default)
|     for name, value in cls.__dict__.items():
|         if isinstance(value, Field) and name not in notes:
|             raise TypeError('%r is a field but has no type annotation' % name)
|     if bases and any(bases) != bool(frozen):
|         raise TypeError('cannot inherit %s dataclass from a %s one' % (('frozen', 'non-frozen')
|             if frozen else ('non-frozen', 'frozen')))
|     setattr(cls, _FIELDS, fields)
|     given = cls.__dict__.get('__hash__', MISSING)
|     has_hash = given is not MISSING and (not (given is None and '__eq__' in cls.__dict__))
|     if order and (not eq):
|         raise ValueError('eq must be true if order is true')
|     every = [f for f in fields.values() if f._field_type is not _FIELD_CLASSVAR]
|     std = [f for f in every if f.init and (not f.kw_only)]
|     named = [f for f in every if f.init and f.kw_only]
|     real = [f for f in every if f._field_type is _FIELD]
|     compared = [f.name for f in real if f.compare]
|     if init:
|         _add(cls, '__init__', _init_fn(cls, every, std, named, frozen))
|     if repr:
|         _add(cls, '__repr__', _repr_fn([f.name for f in real if f.repr]))
|     if eq:
|         _add(cls, '__eq__', _comparison(compared, 'eq'))
|     for name in ('lt', 'le', 'gt', 'ge') if order else ():
|         _add(cls, '__%s__' % name, _comparison(compared, name),
|             '. Consider using functools.total_ordering')
|     for name, what in (('set', 'assign to'), ('del', 'delete')) if frozen else ():
|         _add(cls, '__%sattr__' % name, _frozen_fn(cls, [f.name for f in real], name, what), ' ')
|     if unsafe_hash or (eq and (not has_hash)):
|         if has_hash:
|             raise TypeError('Cannot overwrite attribute __hash__ in class %s' % cls.__name__)
|         hashed = [f.name for f in real if (f.compare if f.hash is None else f.hash)]

|         def own_hash(self):
|             return hash(_values(self, hashed))
|         if '__hash__' in cls.__dict__:
|             del cls.__hash__
|         _add(cls, '__hash__', own_hash if unsafe_hash or frozen else None)
|     if not getattr(cls, '__doc__'):
|         parts = ['%s: %s%s' % (f.name, f.type.__name__ if isinstance(f.type, type) else f.type,
|             '' if _required(f) else ' = %r' % (_HAS_DEFAULT_FACTORY if f.default is MISSING
|             else f.default,)) for f in std + named]
|         cls.__doc__ = '%s(%s)' % (cls.__name__, ', '.join(parts[:len(std)]
|             + ['*'] * bool(named) + parts[len(std):]))
|     if match_args:
|         _add(cls, '__match_args__', tuple([f.name for f in std]))
|     if not slots:
|         return cls
|     if '__slots__' in cls.__dict__:
|         raise TypeError('%s already specifies __slots__' % cls.__name__)
|     names = tuple([f.name for f in real])
|     made = type(cls)(cls.__name__, cls.__bases__, «**«k: v for k, v in cls.__dict__.items()
|         if k not in names and k not in ('__dict__', '__weakref__')», '__slots__': names»)
|     made.__qualname__ = cls.__qualname__
|     return made

| def dataclass(cls=None, /, *, init=True, repr=True, eq=True, order=False, unsafe_hash=False,
|     frozen=False, match_args=True, kw_only=False, slots=False, weakref_slot=False):

|     def wrap(cls):
|         return _process(cls, init, repr, eq, order, unsafe_hash, frozen, match_args, kw_only,
|             slots)
|     return wrap if cls is None else wrap(cls)
"#

/-- The module for tuples whose places have names. -/
def innerRecordsText : String := r#"
| """Tuples whose places have names, as the system gives them."""

| def _place(i):
|     return property(lambda self: tuple.__getitem__(self, i))

| def record(title, names):
|     module, _, name = title.rpartition('.')
|     names = tuple(names)

|     class made(tuple):
|         n_fields = n_sequence_fields = len(names)
|         n_unnamed_fields = 0
|         __match_args__ = names

|         def __new__(cls, sequence, _=None):
|             values = tuple(sequence)
|             if len(values) != len(names):
|                 raise TypeError('%s() takes a %d-sequence (%d-sequence given)' % (title,
|                     len(names), len(values)))
|             return tuple.__new__(cls, values)
|     for i, n in enumerate(names):
|         setattr(made, n, _place(i))
|     made.__name__ = made.__qualname__ = name
|     made.__module__ = module
|     return made
"#

def numbersText : String := r#"
| from abc import ABCMeta
| __all__ = ['Number', 'Complex', 'Real', 'Rational', 'Integral']

| class Number(metaclass=ABCMeta):
|     __slots__ = ()
|     __hash__ = None

| class Complex(Number):
|     __slots__ = ()

| class Real(Complex):
|     __slots__ = ()

| class Rational(Real):
|     __slots__ = ()

| class Integral(Rational):
|     __slots__ = ()
| Complex.register(complex)
| Real.register(float)
| Integral.register(int)
"#

/-- The module for tuples with names for their places. -/
def collectionsText : String := r#"
| from _collections import tuple_class as _tuple_class
| _keywords = (('False None True and as assert async await break class continue def del elif else '
|  'except finally for from global if ') + ('import in is lambda nonlocal not or pass raise '
|  'return try while with yield')).split()

| def namedtuple(typename, field_names, *, rename=False, defaults=None, module=None):
|     if isinstance(field_names, str):
|         field_names = field_names.replace(',', ' ').split()
|     field_names = list(map(str, field_names))
|     if rename:
|         seen = set()
|         for i, name in enumerate(field_names):
|             if not name.isidentifier() or name in _keywords or name.startswith('_') or (name in seen):
|                 field_names[i] = '_%d' % i
|             seen.add(name)
|     for name in [typename] + field_names:
|         if type(name) is not str:
|             raise TypeError('Type names and field names must be strings')
|         if not name.isidentifier():
|             raise ValueError('Type names and field names must be valid identifiers: %r' % name)
|         if name in _keywords:
|             raise ValueError('Type names and field names cannot be a keyword: %r' % name)
|     seen = set()
|     for name in field_names:
|         if name.startswith('_') and (not rename):
|             raise ValueError('Field names cannot start with an underscore: %r' % name)
|         if name in seen:
|             raise ValueError('Encountered duplicate field name: %r' % name)
|         seen.add(name)
|     values = () if defaults is None else tuple(defaults)
|     if len(values) > len(field_names):
|         raise TypeError('Got more default values than field names')
|     return _tuple_class(typename, field_names, values, module or '__main__')

| def __getattr__(name):
|     if name in ('ChainMap', 'UserDict', 'UserList', 'UserString'):
|         from collections._wrappers import ChainMap, UserDict, UserList, UserString
|         return dict(ChainMap=ChainMap, UserDict=UserDict, UserList=UserList,
|             UserString=UserString)[name]
|     if name == 'abc':
|         from collections import abc
|         return abc
|     raise AttributeError("module 'collections' has no attribute '%s'" % name)
| __all__ = ['ChainMap', 'UserDict', 'UserList', 'UserString', 'namedtuple']
"#

/-- The module for collections that are built from other collections. -/
def collectionsWrappersText : String := r#"
| from collections.abc import MutableMapping, MutableSequence, Sequence

| class ChainMap(MutableMapping):

|     def __init__(self, *maps):
|         self.maps = list(maps) or [dict()]

|     def __getitem__(self, key):
|         for mapping in self.maps:
|             try:
|                 return mapping[key]
|             except KeyError:
|                 pass
|         return self.__missing__(key)

| class UserDict(MutableMapping):
|     pass

| class UserList(MutableSequence):
|     pass

| class UserString(Sequence):
|     pass
| ChainMap.__module__ = UserDict.__module__ = UserList.__module__ = 'collections'
| UserString.__module__ = 'collections'
"#

/-- The module for what collections can do. -/
def collectionsAbcText : String := r#"
| from abc import ABCMeta
| __all__ = ['Iterable', 'Iterator', 'Generator', 'Reversible', 'Sized', 'Container',
|     'Collection', 'Set', 'MutableSet', 'Mapping', 'MutableMapping', 'MappingView', 'KeysView',
|     'ItemsView', 'ValuesView', 'Sequence', 'MutableSequence', 'ByteString']

| class _Base(metaclass=ABCMeta):
|     __slots__ = ()

| class Iterable(_Base):
|     __slots__ = ()

| class Iterator(Iterable):
|     __slots__ = ()

| class Reversible(Iterable):
|     __slots__ = ()

|     @classmethod
|     def __subclasshook__(cls, C):
|         if cls is Reversible:
|             return _has(C, '__reversed__', '__iter__')
|         return NotImplemented

| class Generator(Iterator):
|     __slots__ = ()

| class Sized(_Base):
|     __slots__ = ()

| class Container(_Base):
|     __slots__ = ()

| class Collection(Sized, Iterable, Container):
|     __slots__ = ()

|     @classmethod
|     def __subclasshook__(cls, C):
|         if cls is Collection:
|             return _has(C, '__len__', '__iter__', '__contains__')
|         return NotImplemented

| class Set(Collection):
|     __slots__ = ()

|     def __and__(self, other):
|         if not isinstance(other, Iterable):
|             return NotImplemented
|         return self._from_iterable((x for x in other if x in self))
|     __rand__ = __and__

|     def __xor__(self, other):
|         if not isinstance(other, Set):
|             if not isinstance(other, Iterable):
|                 return NotImplemented
|             other = self._from_iterable(other)
|         return self - other | other - self
|     __rxor__ = __xor__

| class MutableSet(Set):
|     __slots__ = ()

| class Mapping(Collection):
|     __slots__ = ()

|     def get(self, key, default=None):
|         try:
|             return self[key]
|         except KeyError:
|             return default
|     __reversed__ = None

| class MappingView(Sized):
|     pass

| class KeysView(MappingView, Set):
|     pass

| class ItemsView(MappingView, Set):
|     pass

| class ValuesView(MappingView, Collection):
|     pass

| class MutableMapping(Mapping):
|     __slots__ = ()
|     __marker = object()

| class Sequence(Reversible, Collection):
|     __slots__ = ()

| class ByteString(Sequence):
|     __slots__ = ()

| class MutableSequence(Sequence):
|     __slots__ = ()
| for _c in (tuple, str, range, memoryview, bytes):
|     Sequence.register(_c)
| for _c in (bytes, bytearray):
|     ByteString.register(_c)
| from _collections import deque as _deque
| for _c in (list, bytearray, _deque):
|     MutableSequence.register(_c)
| Set.register(frozenset)
| MutableSet.register(set)
| MutableMapping.register(dict)
| KeysView.register(type(dict().keys()))
| ItemsView.register(type(dict().items()))
| ValuesView.register(type(dict().values()))
| Set.register(type(dict().keys()))
| Set.register(type(dict().items()))
"#

def functoolsText : String := r#"
| from functools import partial, reduce
| WRAPPER_ASSIGNMENTS = ('__module__', '__name__', '__qualname__', '__doc__', '__annotations__')
| WRAPPER_UPDATES = ('__dict__',)

| def update_wrapper(wrapper, wrapped, assigned=WRAPPER_ASSIGNMENTS, updated=WRAPPER_UPDATES):
|     for attr in assigned:
|         try:
|             value = getattr(wrapped, attr)
|         except AttributeError:
|             pass
|         else:
|             setattr(wrapper, attr, value)
|     for attr in updated:
|         getattr(wrapper, attr).update(getattr(wrapped, attr, dict()))
|     wrapper.__wrapped__ = wrapped
|     return wrapper

| def wraps(wrapped, assigned=WRAPPER_ASSIGNMENTS, updated=WRAPPER_UPDATES):
|     return partial(update_wrapper, wrapped=wrapped, assigned=assigned, updated=updated)
| from _collections import tuple_class as _tuple_class
| _CacheInfo = _tuple_class('CacheInfo', ['hits', 'misses', 'maxsize', 'currsize'], (),
|     'functools')
"#

/-- The module for managers around blocks. -/
def contextlibText : String := r#"
| sys = __import__('sys')
| from functools import wraps
| from abc import ABC
| __all__ = ['contextmanager', 'closing', 'AbstractContextManager', 'ContextDecorator',
|     'redirect_stdout', 'suppress', 'chdir']

| class AbstractContextManager(ABC):
|     pass

| class ContextDecorator:
|     pass

| class _GeneratorContextManager(ContextDecorator):

|     def __init__(self, func, args, kwds):
|         self.gen = func(*args, **kwds)
|         self.func, self.args, self.kwds = (func, args, kwds)

|     def __enter__(self):
|         del self.args, self.kwds, self.func
|         try:
|             return next(self.gen)
|         except StopIteration:
|             raise RuntimeError("generator didn't yield") from None

|     def __exit__(self, typ, value, traceback):
|         if typ is None:
|             try:
|                 next(self.gen)
|             except StopIteration:
|                 return False
|             else:
|                 raise RuntimeError("generator didn't stop")
|         if value is None:
|             value = typ()
|         try:
|             self.gen.throw(value)
|         except StopIteration as exc:
|             return exc is not value
|         except RuntimeError as exc:
|             if exc is value:
|                 return False
|             if isinstance(value, StopIteration) and exc.__cause__ is value:
|                 return False
|             raise
|         except BaseException as exc:
|             if exc is not value:
|                 raise
|             return False
|         raise RuntimeError("generator didn't stop after throw()")

| def contextmanager(func):

|     @wraps(func)
|     def helper(*args, **kwds):
|         return _GeneratorContextManager(func, args, kwds)
|     return helper

| class closing(AbstractContextManager):
|     pass

| class _RedirectStream(AbstractContextManager):
|     _stream = None

|     def __init__(self, new_target):
|         self._new_target = new_target
|         self._old_targets = []

|     def __enter__(self):
|         self._old_targets.append(getattr(sys, self._stream))
|         setattr(sys, self._stream, self._new_target)
|         return self._new_target

|     def __exit__(self, exctype, excinst, exctb):
|         setattr(sys, self._stream, self._old_targets.pop())

| class redirect_stdout(_RedirectStream):
|     _stream = 'stdout'

| class suppress(AbstractContextManager):

|     def __init__(self, *exceptions):
|         self._exceptions = exceptions

|     def __enter__(self):
|         pass

|     def __exit__(self, exctype, excinst, exctb):
|         return exctype is not None and issubclass(exctype, self._exceptions)

| class chdir(AbstractContextManager):
|     pass
"#

/-- The module for references that do not keep objects. -/
def weakrefText : String := r#"
| from _weak import at as _at, look as _look, lookers as _lookers
| _unseen = (int, float, complex, str, bytes, bytearray, tuple, list, dict, type(None), range,
|     slice, memoryview, property, staticmethod, classmethod)

| def _check(o):
|     kind = type(o)
|     if kind in _unseen or (isinstance(o, (int, tuple)) and (not isinstance(o,
|         type))) or (isinstance(o, _unseen) and kind.__module__ == 'builtins'):
|         raise TypeError("cannot create weak reference to '%s' object" % kind.__name__)
|     slots = getattr(kind, '__slots__', None)
|     if slots is not None and (not hasattr(o, '__dict__')) and ('__weakref__' not in slots):
|         raise TypeError("cannot create weak reference to '%s' object" % kind.__name__)

| class ref:

|     def __new__(cls, ob, callback=None, *more, **named):
|         _check(ob)
|         if callback is None and cls is ref:
|             for r in _lookers(ob):
|                 if type(r) is ref and r.__callback__ is None:
|                     return r
|         self = object.__new__(cls)
|         self.__callback__ = callback
|         self._kept = None
|         self._place = _look(ob, self)
|         return self

|     def __init__(self, ob, callback=None):
|         pass

|     def __call__(self):
|         return None if self._place < 0 else _at(self._place)
| setattr(ref, '__name__', 'ReferenceType')
| setattr(ref, '__qualname__', 'ReferenceType')
| ReferenceType = ref

| class ProxyType:
|     __hash__ = None

| def _forward(name):

|     def method(self, *args):
|         args = [_behind(a) if isinstance(a, ProxyType) else a for a in args]
|         return getattr(_behind(self), name)(*args)
|     setattr(ProxyType, name, method)
| for _name in ('lt le eq ne gt ge len getitem setitem delitem contains iter next add sub mul '
|   'truediv floordiv mod pow and or xor lshift rshift neg pos abs invert int float index '
|   'radd rsub rmul iadd isub imul reversed bytes divmod matmul').split():
|     _forward('__%s__' % _name)
| setattr(ProxyType, '__name__', 'weakproxy')

| class WeakSet:
|     __hash__ = None
| setattr(WeakSet, '__module__', '_weakrefset')
"#

def contextvarsText : String := r#"
| __all__ = ['Context', 'ContextVar', 'Token']

| class _Missing:
|     pass
| _none = _Missing()

| class Token:
|     MISSING = _none

|     def __init__(self, context, var, old):
|         self._context = context
|         self.var = var
|         self.old_value = old
|         self._used = False

| class ContextVar:

|     def __init__(self, name, *, default=_none):
|         if not isinstance(name, str):
|             raise TypeError('context variable name must be a str')
|         self.name = name
|         self._default = default

|     def get(self, default=_none, /):
|         values = _current[0]._values
|         if self in values:
|             return values[self]
|         if default is not _none:
|             return default
|         if self._default is not _none:
|             return self._default
|         raise LookupError(self)

|     def set(self, value, /):
|         context = _current[0]
|         token = Token(context, self, context._values.get(self, _none))
|         context._values[self] = value
|         return token

| class Context:

|     def __init__(self):
|         self._values = dict()
|         self._entered = False
| _current = [Context()]
| for _c in (Context, ContextVar, Token):
|     _c.__module__ = '_contextvars'
"#

end Flowboard.Script.Prelude
