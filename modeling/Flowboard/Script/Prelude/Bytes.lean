/-! Modules for digests, for digests with keys, for bytes written with letters, for bytes
written with sixty-four letters and others, for shorter bytes, for lists of numbers of one size,
for how values are taken apart, for values as bytes that they can be made from again, in the
language of scripts. -/
namespace Flowboard.Script.Prelude

def hashlibText : String := r#"
| from _digest import digest as _digest, blake as _blake
| algorithms_guaranteed = set(['blake2b', 'blake2s', 'md5', 'sha1', 'sha224', 'sha256', 'sha384',
|     'sha3_224', 'sha3_256', 'sha3_384', 'sha3_512', 'sha512', 'shake_128', 'shake_256'])
| algorithms_available = set(algorithms_guaranteed)
| __all__ = tuple(sorted(algorithms_guaranteed)) + ('new', 'algorithms_guaranteed',
|     'algorithms_available', 'file_digest', 'pbkdf2_hmac', 'scrypt')
| _sizes = dict(md5=(16, 64), sha1=(20, 64), sha224=(28, 64), sha256=(32, 64), sha384=(48, 128),
|     sha512=(64, 128), sha3_224=(28, 144), sha3_256=(32, 136), sha3_384=(48, 104), sha3_512=(64,
|     72), shake_128=(0, 168), shake_256=(0, 136))

| def _bytes(data):
|     if isinstance(data, str):
|         raise TypeError('Strings must be encoded before hashing')
|     if isinstance(data, bytes):
|         return data
|     try:
|         return bytes(memoryview(data))
|     except TypeError:
|         raise TypeError('object supporting the buffer API required') from None

| class HASH:

|     def __init__(self, name, data=b''):
|         self._name = name
|         self._data = bytearray(data)

|     @property
|     def digest_size(self):
|         return _sizes[self._name][0]

|     @property
|     def block_size(self):
|         return _sizes[self._name][1]

|     def update(self, data, /):
|         self._data += _bytes(data)

|     def digest(self):
|         return _digest(self._name, bytes(self._data))

|     def hexdigest(self):
|         return self.digest().hex()

|     def copy(self):
|         return type(self)(self._name, self._data)

| class HASHXOF(HASH):
|     pass
| HASH.__module__ = HASHXOF.__module__ = '_hashlib'

| class _Blake:

|     def __init__(self, data=b'', /, *, digest_size=None, key=b'', salt=b'', person=b'',
|         fanout=1, depth=1, leaf_size=0, node_offset=0, node_depth=0, inner_size=0,
|         last_node=False, usedforsecurity=True):
|         most = self.MAX_DIGEST_SIZE
|         if digest_size is None:
|             digest_size = most
|         if not 1 <= digest_size <= most:
|             raise ValueError('digest_size must be between 1 and %d bytes' % most)
|         if len(salt) > self.SALT_SIZE:
|             raise ValueError('maximum salt length is %d bytes' % self.SALT_SIZE)
|         if len(person) > self.PERSON_SIZE:
|             raise ValueError('maximum person length is %d bytes' % self.PERSON_SIZE)
|         if not 0 <= fanout <= 255:
|             raise ValueError('fanout must be between 0 and 255')
|         if not 1 <= depth <= 255:
|             raise ValueError('depth must be between 1 and 255')
|         if len(key) > self.MAX_KEY_SIZE:
|             raise ValueError('maximum key length is %d bytes' % self.MAX_KEY_SIZE)
|         self.digest_size = digest_size
|         self._key = bytes(key)
|         wide = most == 64
|         self._settings = bytes([fanout, depth]) + leaf_size.to_bytes(4,
|             'little') + node_offset.to_bytes(8 if wide else 6, 'little') + bytes([node_depth,
|             inner_size]) + bytes(14 if wide else 0) + bytes(salt).ljust(self.SALT_SIZE,
|             b'\x00') + bytes(person).ljust(self.PERSON_SIZE, b'\x00')
|         self._data = bytearray(_bytes(data))

|     def digest(self):
|         return _blake(self.MAX_DIGEST_SIZE, self.digest_size, self._key, self._settings,
|             bytes(self._data))

|     def hexdigest(self):
|         return self.digest().hex()

| class blake2b(_Blake):
|     name = 'blake2b'
|     MAX_DIGEST_SIZE = MAX_KEY_SIZE = 64
|     SALT_SIZE = PERSON_SIZE = 16

| class blake2s(_Blake):
|     name = 'blake2s'
|     MAX_DIGEST_SIZE = MAX_KEY_SIZE = 32
|     SALT_SIZE = PERSON_SIZE = 8
| blake2b.__module__ = blake2s.__module__ = '_blake2'

| def _make(name, data=b'', **options):
|     kind = HASHXOF if name.startswith('shake') else HASH
|     return kind(name, _bytes(data))

| def sha3_256(string=b'', *, usedforsecurity=True):
|     return _make('sha3_256', string)

| def new(name, data=b'', **options):
|     if not isinstance(name, str):
|         raise TypeError('new() argument 1 must be str, not ' + type(name).__name__)
|     plain = name.lower().replace('-', '_')
|     if plain == 'blake2b':
|         return blake2b(data, **options)
|     if plain == 'blake2s':
|         return blake2s(data, **options)
|     if plain.startswith('sha_'):
|         plain = 'sha' + plain[4:]
|     if plain not in _sizes:
|         raise ValueError('unsupported hash type ' + name)
|     return _make(plain, data)
"#

/-- The module for digests with keys. -/
def hmacText : String := r#"
| _hashlib = __import__('hashlib')
| trans_5C = bytes([x ^ 92 for x in range(256)])
| trans_36 = bytes([x ^ 54 for x in range(256)])
| digest_size = None

| class HMAC:
|     blocksize = 64

|     def __init__(self, key, msg=None, digestmod=''):
|         if not isinstance(key, (bytes, bytearray)):
|             raise TypeError('key: expected bytes or bytearray, but got %r' % type(key).__name__)
|         if not digestmod:
|             raise TypeError("Missing required argument 'digestmod'.")
|         if callable(digestmod):
|             make = digestmod
|         elif isinstance(digestmod, str):

|             def make(d=b''):
|                 return _hashlib.new(digestmod, d)
|         self._outer = make()
|         self._inner = make()
|         self.digest_size = self._inner.digest_size
|         self.block_size = self._inner.block_size
|         key = bytes(key)
|         if len(key) > self.block_size:
|             key = make(key).digest()
|         key = key.ljust(self.block_size, b'\x00')
|         self._outer.update(key.translate(trans_5C))
|         self._inner.update(key.translate(trans_36))
|         if msg is not None:
|             self.update(msg)

|     def update(self, msg):
|         self._inner.update(msg)

|     def digest(self):
|         h = self._outer.copy()
|         h.update(self._inner.digest())
|         return h.digest()

|     def hexdigest(self):
|         return self.digest().hex()

| def new(key, msg=None, digestmod=''):
|     return HMAC(key, msg, digestmod)
"#

/-- The module for bytes written with letters. -/
def binasciiText : String := r#"
| from _flate import crc32 as _crc32
| __all__ = ['Error', 'crc32']

| class Error(ValueError):
|     pass

| def _bytes(data):
|     if isinstance(data, bytes):
|         return data
|     return bytes(memoryview_of(data))

| def crc32(data, crc=0, /):
|     return _crc32(_bytes(data), crc)
| _values = dict(zip(b'ABCDEFGHIJKLMNOPQRSTUVWXYZabcdefghijklmnopqrstuvwxyz0123456789+/',
|     range(64)))
"#

/-- The module for bytes written with sixty-four letters and others. -/
def base64Text : String := r#"
| __all__ = ['b85encode']
| _letters85 = (b'0123456789ABCDEFGHIJKLMNOPQRSTUVWXYZabcdefghijklmnopqrstuvwxyz'
|  b'!#$%&()*+-;<=>?@^_`') + bytes([123, 124, 125, 126])

| def _encode85(b, letters, pad, foldnuls=False, foldspaces=False):
|     if not isinstance(b, bytes):
|         b = memoryview(b).tobytes()
|     padding = -len(b) % 4
|     if padding:
|         b = b + b'\x00' * padding
|     chunks = []
|     for i in range(0, len(b), 4):
|         word = int.from_bytes(b[i:i + 4], 'big')
|         if foldnuls and (not word):
|             chunks.append(b'z')
|         elif foldspaces and word == 538976288:
|             chunks.append(b'y')
|         else:
|             digits = []
|             for _ in range(5):
|                 word, d = divmod(word, 85)
|                 digits.append(letters[d])
|             chunks.append(bytes(digits[::-1]))
|     if padding and (not pad):
|         if chunks[-1] == b'z':
|             chunks[-1] = letters[:1] * 5
|         chunks[-1] = chunks[-1][:-padding]
|     return b''.join(chunks)

| def b85encode(b, pad=False):
|     return _encode85(b, _letters85, pad)
"#

/-- The module for shorter bytes. -/
def zlibText : String := r#"
| from _flate import deflate as _deflate, inflate as _inflate, crc32 as _crc32, adler32 as _adler32

| class error(Exception):
|     pass
| error.__module__ = 'zlib'

| def _bytes(data):
|     if isinstance(data, bytes):
|         return data
|     try:
|         return bytes(memoryview(data))
|     except TypeError:
|         raise TypeError("a bytes-like object is required, not '%s'"
|             % type(data).__name__) from None

| def crc32(data, value=0, /):
|     return _crc32(_bytes(data), value)

| def adler32(data, value=1, /):
|     return _adler32(_bytes(data), value)

| def _wrapped(data, level, wbits):
|     if not -1 <= level <= 9:
|         raise error('Bad compression level')
|     body = _deflate(data, 6 if level == -1 else level)
|     if wbits < 0:
|         return body
|     if wbits > 15:
|         mark = 2 if level == 9 else 4 if level == 1 else 0
|         return b'\x1f\x8b\x08\x00\x00\x00\x00\x00' + bytes([mark, 3]) + body + _crc32(data,
|             0).to_bytes(4, 'little') + (len(data) & 4294967295).to_bytes(4, 'little')
|     head = wbits - 8 << 12 | 8 << 8
|     effort = 2 if level == -1 else 0 if level < 2 else 1 if level < 6 else 2 if level == 6 else 3
|     head |= effort << 6
|     head += 31 - head % 31
|     return head.to_bytes(2, 'big') + body + _adler32(data, 1).to_bytes(4, 'big')

| def compress(data, /, level=-1, wbits=15):
|     return _wrapped(_bytes(data), level, wbits)
| _short = 'Error -5 while decompressing data: incomplete or truncated stream'

| def _opened(data, wbits):
|     if wbits < 0:
|         start = 0
|         ending = 0
|     elif wbits > 31 and data[:2] == b'\x1f\x8b' or 15 < wbits < 32:
|         if len(data) < 10:
|             return None
|         if data[:2] != b'\x1f\x8b':
|             return 'Error -3 while decompressing data: incorrect header check'
|         flags = data[3]
|         start = 10
|         if flags & 4:
|             start += 2 + int.from_bytes(data[start:start + 2], 'little')
|         for bit in (8, 16):
|             if flags & bit:
|                 stop = data.find(b'\x00', start)
|                 if stop < 0:
|                     return None
|                 start = stop + 1
|         if flags & 2:
|             start += 2
|         ending = 8
|     else:
|         if len(data) < 2:
|             return None
|         if (data[0] << 8 | data[1]) % 31:
|             return 'Error -3 while decompressing data: incorrect header check'
|         if data[0] & 15 != 8:
|             return 'Error -3 while decompressing data: unknown compression method'
|         if (data[0] >> 4) + 8 > (wbits & 15 or 15):
|             return 'Error -3 while decompressing data: invalid window size'
|         if data[1] & 32:
|             return 'Error 2 while decompressing data'
|         start = 2
|         ending = 4
|     found = _inflate(data, start)
|     if isinstance(found, str):
|         if found == 'truncated':
|             return None
|         return 'Error -3 while decompressing data: ' + found
|     out, stop = found
|     if len(data) < stop + ending:
|         return None
|     last = data[stop:stop + ending]
|     if ending == 4 and int.from_bytes(last, 'big') != _adler32(out, 1) or (ending == 8
|         and int.from_bytes(last[:4], 'little') != _crc32(out, 0)):
|         return 'Error -3 while decompressing data: incorrect data check'
|     if ending == 8 and int.from_bytes(last[4:], 'little') != len(out) & 4294967295:
|         return 'Error -3 while decompressing data: incorrect length check'
|     return (out, stop + ending)

| def decompress(data, /, wbits=15, bufsize=16384):
|     found = _opened(_bytes(data), wbits)
|     if found is None:
|         raise error(_short)
|     if isinstance(found, str):
|         raise error(found)
|     return found[0]

| class Compress:
|     pass

| class Decompress:
|     pass
| Compress.__module__ = Decompress.__module__ = 'zlib'
"#

/-- The module for lists of numbers of one size. -/
def arrayText : String := r#"
| typecodes = 'bBuhHiIlLqQfd'
| _sizes = dict(zip(typecodes, (1, 1, 4, 2, 2, 4, 4, 8, 8, 8, 8, 4, 8)))
| _signed = 'bhilq'
| _memory = memoryview

| class array:

|     def __new__(cls, typecode, initializer=None, /):
|         if not isinstance(typecode, str) or len(typecode) != 1:
|             raise TypeError('array() argument 1 must be a unicode character, not '
|                 + type(typecode).__name__)
|         if typecode not in _sizes:
|             raise ValueError('bad typecode (must be b, B, u, h, H, i, I, l, L, q, Q, f or d)')
|         self = object.__new__(cls)
|         self._code = typecode
|         self._size = _sizes[typecode]
|         self._data = bytearray()
|         x = initializer
|         if x is None:
|             return self
|         if isinstance(x, str):
|             if typecode != 'u':
|                 raise TypeError("cannot use a str to initialize an array with typecode '%s'"
|                     % typecode)
|             self.fromunicode(x)
|         elif isinstance(x, (bytes, bytearray)):
|             self.frombytes(x)
|         elif isinstance(x, array):
|             if x._code == typecode:
|                 self._data += x._data
|             elif x._code == 'u' or typecode == 'u':
|                 raise TypeError("cannot use a unicode array to initialize an array with typecode "
|         "'%s'" % typecode)
|             else:
|                 self.extend(x.tolist())
|         else:
|             self.extend(x)
|         return self

|     @property
|     def itemsize(self):
|         return self._size

|     def _packed(self, v):
|         code = self._code
|         if code == 'u':
|             if not isinstance(v, str):
|                 raise TypeError('array item must be a unicode character, not '
|                     + type(v).__name__)
|             if len(v) != 1:
|                 raise TypeError('array item must be unicode character')
|             return ord(v).to_bytes(4, 'little')
|         if code in 'fd':
|             if not isinstance(v, (int, float)) and (not hasattr(v,
|                 '__float__')) and (not hasattr(v, '__index__')):
|                 raise TypeError('must be real number, not ' + type(v).__name__)
|             cell = bytearray(self._size)
|             _memory(cell).cast(code)[0] = float(v)
|             return cell
|         if not isinstance(v, int):
|             if not hasattr(v, '__index__'):
|                 if isinstance(v, float) or code in 'bhBHilLIqQ':
|                     raise TypeError("'%s' object cannot be interpreted as an integer"
|                         % type(v).__name__)
|             v = v.__index__()
|         bits = 8 * self._size
|         signed = code in _signed
|         low, high = (-1 << bits - 1, (1 << bits - 1) - 1) if signed else (0, (1 << bits) - 1)
|         if v < low or v > high:
|             what = dict(b='signed char', B='unsigned byte integer', h='signed short integer',
|                 H='unsigned short', i='signed integer', I='unsigned int').get(code)
|             far = not -1 << 63 <= v < 1 << 63
|             if code == 'l' or (far and code in 'bBhi'):
|                 raise OverflowError('Python int too large to convert to C long')
|             if code == 'q':
|                 raise OverflowError('int too big to convert')
|             if code in 'LQ':
|                 raise OverflowError("can't convert negative value to unsigned int" if v < 0
|                     else 'int too big to convert' if code == 'Q'
|                     else 'Python int too large to convert to C unsigned long')
|             if code == 'I' and v < 0:
|                 raise OverflowError("can't convert negative value to unsigned int")
|             raise OverflowError('%s is %s than %s' % (what, 'less' if v < low else 'greater',
|                 'minimum' if v < low else 'maximum'))
|         return v.to_bytes(self._size, 'little', signed=signed)

|     def tolist(self):
|         code = self._code
|         if code == 'u':
|             return self._view()
|         return _memory(self._data).cast(code).tolist()

|     def extend(self, bb, /):
|         if isinstance(bb, array):
|             if bb._code != self._code:
|                 raise TypeError('can only extend with array of same kind')
|             self._data += bytes(bb._data)
|             return
|         for v in bb:
|             self._data += self._packed(v)

|     def tobytes(self):
|         return bytes(self._data)

|     def byteswap(self):
|         size = self._size
|         self._data[:] = b''.join([self._data[i:i + size][::-1] for i in range(0,
|             len(self._data), size)])
|     __hash__ = None

|     def __repr__(self):
|         if not self._data:
|             return "%s('%s')" % (type(self).__name__, self._code)
|         if self._code == 'u':
|             return "%s('u', %r)" % (type(self).__name__, self.tounicode())
|         return "%s('%s', %r)" % (type(self).__name__, self._code, self.tolist())
| array.__module__ = 'array'
| setattr(array, '.title', 'array.array')
"#

/-- The module for how values are taken apart. -/
def copyregText : String := r#"
| dispatch_table = «»
"#

/-- The module for values as bytes that they can be made from again. -/
def pickleText : String := r#"
| import sys
| from copyreg import dispatch_table
| from struct import pack, unpack
| from io import BytesIO
| from collections import OrderedDict, defaultdict, deque, Counter
| from types import FunctionType, BuiltinFunctionType, NoneType
| HIGHEST_PROTOCOL, DEFAULT_PROTOCOL, format_version = (5, 4, '4.0')
| _OLD = «'__builtin__': 'builtins', 'copy_reg': 'copyreg'»
| _NEW = «v: k for k, v in _OLD.items()»

| class PickleError(Exception):
|     pass

| class PicklingError(PickleError):
|     pass

| class UnpicklingError(PickleError):
|     pass
| PickleError.__module__ = PicklingError.__module__ = UnpicklingError.__module__ = '_pickle'

| class Pickler:

|     def __init__(self, file, protocol=None, *, fix_imports=True, buffer_callback=None):
|         protocol = DEFAULT_PROTOCOL if protocol is None else protocol
|         if protocol < 0:
|             protocol = HIGHEST_PROTOCOL
|         elif protocol > HIGHEST_PROTOCOL:
|             raise ValueError('pickle protocol must be <= %d' % HIGHEST_PROTOCOL)
|         self._file, self.proto, self.memo = (file, max(protocol, 2), «»)
|         self.fix_imports, self._held = (fix_imports, [])

|     def persistent_id(self, obj):
|         return None

|     def dump(self, obj):
|         self._parts, self._size = ([], 0)
|         head = b'\x80' + bytes([self.proto])
|         self._save(obj)
|         self._put(b'.')
|         self._file.write(head)
|         self._flush()

|     def _put(self, *data):
|         for d in data:
|             self._parts.append(d)
|             self._size += len(d)

|     def _flush(self):
|         data = b''.join(self._parts)
|         if self.proto >= 4 and len(data) >= 4:
|             self._file.write(b'\x95' + pack('<Q', len(data)))
|         self._file.write(data)
|         self._parts, self._size = ([], 0)

|     def _memo(self, obj, key=None):
|         i = len(self.memo)
|         self.memo[id(obj) if key is None else key] = i
|         self._held.append(obj)
|         self._put(b'\x94' if self.proto >= 4 else b'q' + bytes([i]) if i < 256 else b'r'
|             + pack('<I', i))

|     def _save(self, obj, asked=True):
|         put, cls = (self._put, type(obj))
|         if asked:
|             pid = self.persistent_id(obj)
|             if pid is not None:
|                 self._save(pid, False)
|                 return put(b'Q')
|         if obj is None:
|             return put(b'N')
|         if cls is bool:
|             return put(b'\x88' if obj else b'\x89')
|         if cls is int:
|             if 0 <= obj < 256:
|                 return put(b'K' + bytes([obj]))
|             if 0 <= obj < 65536:
|                 return put(b'M' + pack('<H', obj))
|             if -2147483648 <= obj < 2147483648:
|                 return put(b'J' + pack('<i', obj))
|             data = encode_long(obj)
|             return put(b'\x8a' + bytes([len(data)]) + data if len(data) < 256 else b'\x8b'
|                 + pack('<i', len(data)) + data)
|         if cls is float:
|             return put(b'G' + pack('>d', obj))
|         key = (cls, obj) if cls in (str, bytes) else id(obj)
|         if key in self.memo:
|             return self._get(key)
|         if cls is str:
|             data = obj.encode('utf-8', 'surrogatepass')
|             n = len(data)
|             put(b'\x8c' + bytes([n]) if n < 256 and self.proto >= 4 else b'X' + pack('<I', n),
|                 data)
|             return self._memo(obj, key)
|         if cls is bytes:
|             n = len(obj)
|             put(b'C' + bytes([n]) if n < 256 else b'B' + pack('<I', n), obj)
|             return self._memo(obj, key)
|         if cls is bytearray and self.proto >= 5:
|             put(b'\x96' + pack('<Q', len(obj)), bytes(obj))
|             return self._memo(obj)
|         if cls is tuple:
|             return self._tuple(obj)
|         if cls is list:
|             put(b']')
|             self._memo(obj)
|             return self._append(obj, len(obj) > 1)
|         if cls is dict:
|             put(b'»')
|             self._memo(obj)
|             return self._set(obj.items(), len(obj) > 1)
|         if cls in (set, frozenset) and self.proto >= 4:
|             if cls is set:
|                 put(b'\x8f')
|                 self._memo(obj)
|                 if not obj:
|                     return
|             put(b'(')
|             for x in obj:
|                 self._save(x)
|             if cls is set:
|                 return put(b'\x90')
|             put(b'\x91')
|             return self._memo(obj)
|         if self._size >= 65536:
|             self._flush()
|         table = getattr(self, 'dispatch_table', dispatch_table)
|         own = getattr(self, 'reducer_override', None)
|         result = own(obj) if own else NotImplemented
|         if result is NotImplemented:
|             if obj is NoneType or obj is type(NotImplemented) or obj is type(...):
|                 value = None if obj is NoneType else ... if obj is type(...) else NotImplemented
|                 return self._reduced(obj, type, (value,))
|             if cls in (FunctionType, BuiltinFunctionType) or isinstance(obj, type):
|                 return self._global(obj)
|             if cls in table:
|                 result = table[cls](obj)
|             elif obj is ... or obj is NotImplemented:
|                 result = 'Ellipsis' if obj is ... else 'NotImplemented'
|             else:
|                 result = _reduce(obj, self.proto)
|         if isinstance(result, str):
|             return self._global(obj, result)
|         if not isinstance(result, tuple):
|             raise PicklingError('__reduce__ must return a string or tuple')
|         self._reduced(obj, *result)

|     def _tuple(self, obj):
|         if not obj:
|             return self._put(b')')
|         small = len(obj) <= 3
|         if not small:
|             self._put(b'(')
|         for x in obj:
|             self._save(x)
|         if id(obj) in self.memo:
|             self._put(b'0' * len(obj) if small else b'1')
|             return self._get(id(obj))
|         self._put((b'\x85', b'\x86', b'\x87')[len(obj) - 1] if small else b't')
|         self._memo(obj)

|     def _set(self, items, whole=False):
|         items = list(items)
|         for i in range(0, len(items) + whole, 1000):
|             part = items[i:i + 1000]
|             alone = len(part) == 1 and (not whole)
|             if not alone:
|                 self._put(b'(')
|             for k, v in part:
|                 self._save(k)
|                 self._save(v)
|             self._put(b's' if alone else b'u')

| class Unpickler:

|     def __init__(self, file, *, fix_imports=True, encoding='ASCII', errors='strict',
|         buffers=None):
|         self._file, self.memo, self.proto = (file, «», 0)

|     def _read(self, n):
|         data = self._file.read(n)
|         if len(data) < n:
|             raise UnpicklingError('pickle data was truncated')
|         return data

|     def _number(self, form, n):
|         return unpack(form, self._read(n))[0]

|     def _marked(self):
|         i = self._marks.pop()
|         items = self._stack[i:]
|         del self._stack[i:]
|         return items

|     def load(self):
|         self._stack, self._marks = ([], [])
|         stack, number, read = (self._stack, self._number, self._read)
|         counts = «'C': '<B', 'B': '<I', '\x8e': '<Q', '\x8c': '<B', 'X': '<I', '\x8d': '<Q',
|             '\x96': '<Q', 'U': '<B', 'T': '<i', '\x8a': '<B', '\x8b': '<i'»
|         sizes = «'<B': 1, '<I': 4, '<Q': 8, '<i': 4»
|         plain = «'N': None, '\x88': True, '\x89': False, ')': ()»
|         fresh = «']': list, '»': dict, '\x8f': set»
|         while True:
|             op = self._file.read(1)
|             if not op:
|                 raise EOFError('Ran out of input')
|             c = chr(op[0])
|             if c == '.':
|                 return stack.pop()
|             if c in plain:
|                 stack.append(plain[c])
|             elif c in fresh:
|                 stack.append(fresh[c]())
|             elif c in counts:
|                 form = counts[c]
|                 data = read(number(form, sizes[form]))
|                 if c in '\x8cX\x8d':
|                     data = data.decode('utf-8', 'surrogatepass')
|                 elif c in 'UT':
|                     data = data.decode('ascii')
|                 elif c == '\x96':
|                     data = bytearray(data)
|                 elif c in '\x8a\x8b':
|                     data = decode_long(data)
|                 stack.append(data)
|             elif c == 'K':
|                 stack.append(read(1)[0])
|             elif c == 'M':
|                 stack.append(number('<H', 2))
|             elif c == 'J':
|                 stack.append(number('<i', 4))
|             elif c == 'G':
|                 stack.append(number('>d', 8))
|             elif c in 'IL':
|                 text = self._line()
|                 stack.append(text == '01' if text in ('00', '01') and c == 'I'
|                     else int(text.rstrip('L')))
|             elif c == 'F':
|                 stack.append(float(self._line()))
|             elif c in 'SV':
|                 text = self._line()
|                 stack.append(eval(text) if c == 'S'
|                     else text.encode().decode('raw-unicode-escape'))
|             elif c in '\x85\x86\x87':
|                 n = '\x84\x85\x86\x87'.index(c)
|                 stack[-n:] = [tuple(stack[-n:])]
|             elif c == 't':
|                 stack.append(tuple(self._marked()))
|             elif c in 'ld\x91':
|                 items = self._marked()
|                 stack.append(items if c == 'l' else frozenset(items) if c == '\x91'
|                     else dict(zip(items[::2], items[1::2])))
|             elif c == '(':
|                 self._marks.append(len(stack))
|             elif c == '0':
|                 stack.pop()
|             elif c == '1':
|                 self._marked()
|             elif c == '2':
|                 stack.append(stack[-1])
|             elif c == 'a':
|                 value = stack.pop()
|                 stack[-1].append(value)
|             elif c == 'e':
|                 items = self._marked()
|                 held = stack[-1]
|                 if hasattr(held, 'extend'):
|                     held.extend(items)
|                 else:
|                     for x in items:
|                         held.append(x)
|             elif c == '\x90':
|                 items = self._marked()
|                 stack[-1].update(items)
|             elif c == 's':
|                 value = stack.pop()
|                 key = stack.pop()
|                 stack[-1][key] = value
|             elif c == 'u':
|                 items = self._marked()
|                 for k, v in zip(items[::2], items[1::2]):
|                     stack[-1][k] = v
|             elif c in 'pqr\x94':
|                 i = len(self.memo) if c == '\x94' else int(self._line()) if c == 'p' else read(1)[0] if c == 'q' else number('<I', 4)
|                 self.memo[i] = stack[-1]
|             elif c in 'ghj':
|                 i = int(self._line()) if c == 'g' else read(1)[0] if c == 'h' else number('<I',
|                     4)
|                 if i not in self.memo:
|                     raise UnpicklingError('Memo value not found at index %d' % i)
|                 stack.append(self.memo[i])
|             elif c in 'c\x93':
|                 if c == 'c':
|                     module = self._line()
|                     name = self._line()
|                 else:
|                     name = stack.pop()
|                     module = stack.pop()
|                 stack.append(self.find_class(module, name))
|             elif c == 'R':
|                 args = stack.pop()
|                 stack[-1] = stack[-1](*args)
|             elif c == '\x81':
|                 args = stack.pop()
|                 stack[-1] = stack[-1].__new__(stack[-1], *args)
|             elif c == '\x92':
|                 kwargs = stack.pop()
|                 args = stack.pop()
|                 stack[-1] = stack[-1].__new__(stack[-1], *args, **kwargs)
|             elif c in 'io':
|                 items = self._marked()
|                 cls = self.find_class(self._line(), self._line()) if c == 'i' else items.pop(0)
|                 stack.append(cls(*items))
|             elif c == 'b':
|                 state = stack.pop()
|                 held = stack[-1]
|                 setter = getattr(held, '__setstate__', None)
|                 if setter is not None:
|                     setter(state)
|                 else:
|                     slots = None
|                     if isinstance(state, tuple) and len(state) == 2:
|                         state, slots = state
|                     if state:
|                         held.__dict__.update(state)
|                     for k, v in (slots or «»).items():
|                         setattr(held, k, v)
|             elif c in 'PQ':
|                 stack.append(self.persistent_load(self._line() if c == 'P' else stack.pop()))
|             elif c == '\x80':
|                 self.proto = read(1)[0]
|                 if self.proto > HIGHEST_PROTOCOL:
|                     raise ValueError('unsupported pickle protocol: %d' % self.proto)
|             elif c == '\x95':
|                 if number('<Q', 8) == 0:
|                     continue
|             else:
|                 raise UnpicklingError('invalid load key, %s.' % (repr(c) if ' ' <= c <= '~'
|                     else "'\\x%02x'" % ord(c)))

| def dumps(obj, protocol=None, *, fix_imports=True, buffer_callback=None):
|     out = BytesIO()
|     Pickler(out, protocol, fix_imports=fix_imports).dump(obj)
|     return out.getvalue()

| def loads(data, /, *, fix_imports=True, encoding='ASCII', errors='strict', buffers=None):
|     if isinstance(data, str):
|         raise TypeError("a bytes-like object is required, not 'str'")
|     return Unpickler(BytesIO(data)).load()
"#

end Flowboard.Script.Prelude
