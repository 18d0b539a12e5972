/-! Modules for what the running script can know about itself, for files in memory, for files,
directories, processes and the environment, for paths, for what the numbers about files mean, for
whole directories, in the language of scripts. -/
namespace Flowboard.Script.Prelude

/-- The module for what the running script can know about itself. -/
def sysText : String := r#"
| """What the running script can know about itself."""
| from _records import record as _record
| maxsize = 9223372036854775807
| platform = 'linux'
| byteorder = 'little'
| version = '3.11.2 (main, Apr 28 2025, 14:11:48) [GCC 12.2.0]'
| hexversion = 51053296
| prefix = exec_prefix = base_prefix = base_exec_prefix = '/usr'
| dont_write_bytecode = False
| copyright = ''
| version_info = _record('sys.version_info', ('major', 'minor', 'micro', 'releaselevel',
|     'serial'))((3, 11, 2, 'final', 0))
| float_info = _record('sys.float_info', ('max', 'max_exp', 'max_10_exp', 'min', 'min_exp',
|     'min_10_exp', 'dig', 'mant_dig', 'epsilon', 'radix', 'rounds'))((1.7976931348623157e+308,
|     1024, 308, 2.2250738585072014e-308, -1021, -307, 15, 53, 2.220446049250313e-16, 2, 1))
| int_info = _record('sys.int_info', ('bits_per_digit', 'sizeof_digit', 'default_max_str_digits',
|     'str_digits_check_threshold'))((30, 4, 4300, 640))
| hash_info = _record('sys.hash_info', ('width', 'modulus', 'inf', 'nan', 'imag', 'algorithm',
|     'hash_bits', 'seed_bits', 'cutoff'))((64, 2305843009213693951, 314159, 0, 1000003,
|     'siphash13', 64, 128, 0))
| thread_info = _record('sys.thread_info', ('name', 'lock', 'version'))(('pthread', 'semaphore',
|     'NPTL 2.36'))
| flags = _record('sys.flags', ('debug', 'inspect', 'interactive', 'optimize',
|     'dont_write_bytecode', 'no_user_site', 'no_site', 'ignore_environment', 'verbose',
|     'bytes_warning', 'quiet', 'hash_randomization', 'isolated', 'dev_mode', 'utf8_mode',
|     'warn_default_encoding', 'safe_path', 'int_max_str_digits'))((0, 0, 0, 0, 0, 0, 0, 0, 0, 0,
|     0, 1, 0, False, 1, 0, False, 4300))

| class _Namespace:
|     pass
| _Namespace.__name__ = _Namespace.__qualname__ = 'SimpleNamespace'
| _Namespace.__module__ = 'types'
| implementation = _Namespace()
| implementation.name = 'cpython'
| implementation.cache_tag = 'cpython-311'
| implementation.version = version_info
| implementation.hexversion = hexversion
| implementation._multiarch = 'x86_64-linux-gnu'

| def _base_size(o):
|     kind = type(o)
|     if kind in (int, bool) or isinstance(o, int):
|         digits, n = (0, abs(int(o)))
|         digits = (n.bit_length() + 29) // 30
|         return 24 + 4 * max(digits, 1)
|     if isinstance(o, float):
|         return 24
|     if isinstance(o, str):
|         n = len(o)
|         top = max(map(ord, o)) if o else 0
|         if top < 128:
|             return 49 + n
|         return 73 + n if top < 256 else 74 + 2 * n if top < 65536 else 76 + 4 * n
|     if isinstance(o, bytes):
|         return 33 + len(o)
|     if isinstance(o, tuple):
|         return 40 + 8 * len(o)
|     if isinstance(o, list):
|         n = len(o)
|         return 56 + 8 * (n if n < 3 else n + n % 2)
|     if isinstance(o, dict):
|         return _dict_size(o)
|     if isinstance(o, (set, frozenset)):
|         return _set_size(len(o))
|     if isinstance(o, bytearray):
|         return 57 + len(o) if o else 56
|     if o is None or o is Ellipsis or kind is object:
|         return 16
|     if isinstance(o, complex):
|         return 32
|     if isinstance(o, range):
|         return 48
|     if isinstance(o, slice):
|         return 56
|     if isinstance(o, type):
|         return 1688 if kind is type and o.__module__ != 'builtins' else 424
|     known = dict(function=152, builtin_function_or_method=72, method=64, module=72,
|         generator=200, list_iterator=64, tuple_iterator=48, range_iterator=32, map=48,
|         filter=48, zip=64, enumerate=72, memoryview=184, coroutine=200, property=72, deque=760,
|         array=80)
|     if kind.__name__ in known:
|         return known[kind.__name__]
|     slots = getattr(kind, '__slots__', None)
|     if slots is not None and (not hasattr(o, '__dict__')):
|         return 16 + 8 * len(slots) + 16
|     return 56

| def getsizeof(obj, default=None):
|     own = getattr(type(obj), '__sizeof__', None)
|     if own is not None and type(own).__name__ == 'function':
|         size = own(obj)
|         return size + 16
|     return _base_size(obj)
| __stdin__ = __import__('sys').stdin
"#

/-- The module for files in memory. -/
def ioText : String := r#"
| BlockingIOError = BlockingIOError

| class UnsupportedOperation(OSError, ValueError):
|     pass

| class _Kind(type):
|     pass

| class IOBase(metaclass=_Kind):
|     _natives = ('TextIOWrapper', 'BufferedReader', 'BufferedWriter', 'BufferedRandom', 'FileIO')
|     closed = False

|     def _check(self):
|         if self.closed:
|             raise ValueError('I/O operation on closed file' + self._period)
|     _period = '.'

|     def __iter__(self):
|         self._check()
|         return self

|     def __next__(self):
|         line = self.readline()
|         if not line:
|             raise StopIteration
|         return line

| class RawIOBase(IOBase):
|     _natives = ('FileIO',)

| class BufferedIOBase(IOBase):
|     _natives = ('BufferedReader', 'BufferedWriter', 'BufferedRandom')

| class TextIOBase(IOBase):
|     _natives = ('TextIOWrapper',)
|     encoding = None
|     errors = None
|     newlines = None

| class _Memory:
|     _ends = None

|     def _all(self):
|         if len(self._parts) > 1:
|             self._parts = [self._empty.join(self._parts)]
|         return self._parts[0] if self._parts else self._empty

|     def getvalue(self):
|         self._check()
|         return self._all()

|     def read(self, size=-1):
|         self._check()
|         text = self._all()
|         if size is None or size < 0:
|             found = text[self._pos:]
|         else:
|             found = text[self._pos:self._pos + size]
|         self._pos += len(found)
|         return found

|     def readline(self, size=-1):
|         self._check()
|         text = self._all()
|         i = text.find(self._newline, self._pos)
|         stop = len(text) if i < 0 else i + len(self._newline)
|         if self._ends == '':
|             r = text.find('\r', self._pos, stop)
|             if r >= 0:
|                 stop = r + 2 if text[r:r + 2] == '\r\n' else r + 1
|         if size is not None and 0 <= size < stop - self._pos:
|             stop = self._pos + size
|         found = text[self._pos:stop]
|         self._pos += len(found)
|         return found

|     def _put(self, data):
|         n = len(data)
|         if self._pos == self._size:
|             self._parts.append(data)
|             self._size += n
|         else:
|             text = self._all()
|             if self._pos > self._size:
|                 text = text + self._nul * (self._pos - self._size)
|             text = text[:self._pos] + data + text[self._pos + n:]
|             self._parts = [text]
|             self._size = len(text)
|         self._pos += n
|         return n

| class StringIO(_Memory, TextIOBase):
|     __module__ = '_io'
|     _empty = ''
|     _newline = '\n'
|     _nul = '\x00'
|     _period = ''

|     def __init__(self, initial_value='', newline='\n'):
|         if initial_value is not None and (not isinstance(initial_value, str)):
|             raise TypeError('initial_value must be str or None, not '
|                 + type(initial_value).__name__)
|         if newline not in (None, '', '\n', '\r', '\r\n'):
|             raise ValueError('illegal newline value: %r' % (newline,))
|         text = initial_value or ''
|         if newline is None:
|             text = text.replace('\r\n', '\n').replace('\r', '\n')
|         self._translate = newline is None
|         self._ends = newline
|         if newline in ('\r', '\r\n'):
|             self._newline = newline
|             text = text.replace('\n', newline)
|         self._parts = [text] if text else []
|         self._size = len(text)
|         self._pos = 0

|     def write(self, s):
|         self._check()
|         if not isinstance(s, str):
|             raise TypeError("string argument expected, got '%s'" % type(s).__name__)
|         n = len(s)
|         if self._translate:
|             s = s.replace('\r\n', '\n').replace('\r', '\n')
|         elif self._newline != '\n':
|             s = s.replace('\n', self._newline)
|         self._put(s)
|         return n

| class BytesIO(_Memory, BufferedIOBase):
|     __module__ = '_io'
|     _empty = b''
|     _newline = b'\n'
|     _nul = b'\x00'

|     def __init__(self, initial_bytes=b''):
|         data = bytes(initial_bytes) if initial_bytes is not None else b''
|         self._parts = [data] if data else []
|         self._size = len(data)
|         self._pos = 0

|     def write(self, b):
|         self._check()
|         if isinstance(b, str):
|             raise TypeError("a bytes-like object is required, not 'str'")
|         return self._put(bytes(b))

| class TextIOWrapper(TextIOBase):
|     __module__ = '_io'
|     _natives = ('TextIOWrapper',)

| class _Buffered(BufferedIOBase):
|     pass

| class BufferedReader(_Buffered):
|     __module__ = '_io'
|     _natives = ('BufferedReader',)

| class BufferedWriter(_Buffered):
|     __module__ = '_io'
|     _natives = ('BufferedWriter',)

| class BufferedRandom(_Buffered):
|     __module__ = '_io'
|     _natives = ('BufferedRandom',)

| class FileIO(RawIOBase):
|     __module__ = '_io'
|     _natives = ('FileIO',)
"#

/-- The module for files, directories, processes and the environment. -/
def osText : String := r#"
| """The system: files, directories, processes and the environment."""
| from posix import abort, access as _access, chdir, close, cpu_count, dup, environ as _environ, fork, fsync, ftruncate, getcwd, getegid, geteuid, getgid, getpgid, getpgrp, getpid, getppid, getsid, getuid, isatty, kill, killpg, nice, pipe, read, setpgid, setsid, stat as _stat_raw, strerror, system, umask, urandom, waitpid, write, _exit, lseek
| from collections.abc import MutableMapping
| from abc import ABC
| from _records import record as _tuples
| from os import path
| name = 'posix'
| sep = '/'
| F_OK, X_OK, W_OK, R_OK = (0, 1, 2, 4)
| error = OSError

| def fspath(path):
|     if isinstance(path, (str, bytes)):
|         return path
|     kind = type(path)
|     if not hasattr(kind, '__fspath__'):
|         raise TypeError('expected str, bytes or os.PathLike object, not ' + kind.__name__)
|     found = kind.__fspath__(path)
|     if isinstance(found, (str, bytes)):
|         return found
|     raise TypeError('expected %s.__fspath__() to return str or bytes, not %s' % (kind.__name__,
|         type(found).__name__))

| class PathLike(ABC):
|     pass

| class _Environ(MutableMapping):

|     def __init__(self, data, coded):
|         self._data = data
|         self._coded = coded

|     def _in(self, value):
|         if self._coded:
|             if not isinstance(value, bytes):
|                 raise TypeError('bytes expected, not %s' % type(value).__name__)
|             return value.decode('utf-8', 'surrogateescape')
|         if not isinstance(value, str):
|             raise TypeError('str expected, not %s' % type(value).__name__)
|         return value

|     def _out(self, value):
|         return value.encode('utf-8', 'surrogateescape') if self._coded else value

|     def __getitem__(self, key):
|         try:
|             return self._out(self._data[self._in(key)])
|         except KeyError:
|             raise KeyError(key) from None
| environ = _Environ(_environ, False)
| environb = _Environ(_environ, True)

| class stat_result(_tuples('os.stat_result', ('st_mode', 'st_ino', 'st_dev', 'st_nlink',
|     'st_uid', 'st_gid', 'st_size', 'st_atime', 'st_mtime', 'st_ctime'))):
|     n_fields, n_sequence_fields, n_unnamed_fields = (19, 10, 3)
|     st_blksize = 4096
|     st_rdev = 0

| def _stat_of(values):
|     moment = values[7]
|     found = tuple.__new__(stat_result, values[:7] + (moment // 1000000000,) * 3)
|     found._moment = moment
|     return found

| def stat(path, *, dir_fd=None, follow_symlinks=True):
|     if not isinstance(path, int):
|         try:
|             path = fspath(path)
|         except TypeError:
|             raise TypeError('stat: path should be string, bytes, os.PathLike or integer, not '
|                 + type(path).__name__) from None
|     return _stat_of(_stat_raw(path, 1 if follow_symlinks else 0))

| def access(path, mode, *, dir_fd=None, effective_ids=False, follow_symlinks=True):
|     return _access(path, mode)

| def WIFEXITED(status):
|     return status & 127 == 0

| def WEXITSTATUS(status):
|     return status >> 8 & 255

| def waitstatus_to_exitcode(status):
|     if WIFEXITED(status):
|         return WEXITSTATUS(status)
|     if WIFSIGNALED(status):
|         return -WTERMSIG(status)
|     raise ValueError('invalid wait status: %i' % status)

| class terminal_size(_tuples('os.terminal_size', ('columns', 'lines'))):
|     __slots__ = ()

| def get_terminal_size(fd=1):
|     raise OSError(25, 'Inappropriate ioctl for device')
"#

def osPathText : String := r#"
| """Paths."""
| from posixpath import basename, dirname, isabs, join, normpath, split, splitext
| curdir, pardir, extsep, sep, pathsep = ('.', '..', '.', '/', ':')
| __all__ = ['isabs', 'join', 'split', 'splitext', 'basename', 'dirname', 'normpath', 'curdir',
|     'pardir', 'sep', 'pathsep', 'extsep']
"#

/-- The module for what the numbers about files mean. -/
def statText : String := r#"
| """What the numbers about files mean."""
| S_IFDIR, S_IFCHR, S_IFBLK, S_IFREG = (16384, 8192, 24576, 32768)
| S_IFIFO, S_IFLNK, S_IFSOCK, S_IFDOOR, S_IFPORT, S_IFWHT = (4096, 40960, 49152, 0, 0, 0)
| S_ISUID, S_ISGID, S_ENFMT, S_ISVTX = (2048, 1024, 1024, 512)

| def S_IMODE(mode):
|     return mode & 4095

| def S_ISREG(mode):
|     return mode & 61440 == S_IFREG

| def filemode(mode):
|     kinds = dict([(S_IFLNK, 'l'), (S_IFSOCK, 's'), (S_IFREG, '-'), (S_IFBLK, 'b'), (S_IFDIR,
|         'd'), (S_IFCHR, 'c'), (S_IFIFO, 'p')])
|     out = kinds.get(mode & 61440, '?')
|     for shift, special, letter in ((6, S_ISUID, 's'), (3, S_ISGID, 's'), (0, S_ISVTX, 't')):
|         bits = mode >> shift & 7
|         out += 'r' if bits & 4 else '-'
|         out += 'w' if bits & 2 else '-'
|         if mode & special:
|             out += letter if bits & 1 else letter.upper()
|         else:
|             out += 'x' if bits & 1 else '-'
|     return out
"#

/-- The module for whole directories. -/
def shutilText : String := r#"
| os = __import__('os')
| sys = __import__('sys')
| stat = __import__('stat')
| collections = __import__('collections')
| __all__ = ['rmtree', 'Error', 'get_terminal_size']

| class Error(OSError):
|     pass

| def rmtree(path, ignore_errors=False, onerror=None, *, dir_fd=None):
|     if ignore_errors:
|         pass
|     elif onerror is None:
|         pass
|     try:
|         if os.path.islink(path):
|             raise OSError('Cannot call rmtree on a symbolic link')
|         if not os.path.isdir(path):
|             os.scandir(path) if os.path.lexists(path) else os.lstat(path)
|     except OSError as e:
|         onerror(os.path.islink if os.path.islink(path) else os.scandir if os.path.lexists(path)
|             else os.lstat, path, sys.exc_info())
|         return
|     return _rmtree_unsafe(path, onerror)
| rmtree.avoids_symlink_attacks = True
| _usage = collections.namedtuple('usage', 'total used free')

| def get_terminal_size(fallback=(80, 24)):
|     try:
|         columns = int(os.environ['COLUMNS'])
|     except (KeyError, ValueError):
|         columns = 0
|     try:
|         lines = int(os.environ['LINES'])
|     except (KeyError, ValueError):
|         lines = 0
|     if columns <= 0 or lines <= 0:
|         try:
|             size = os.get_terminal_size(sys.__stdout__.fileno())
|         except (AttributeError, ValueError, OSError):
|             size = os.terminal_size(fallback)
|         if columns <= 0:
|             columns = size.columns or fallback[0]
|         if lines <= 0:
|             lines = size.lines or fallback[1]
|     return os.terminal_size((columns, lines))
"#

end Flowboard.Script.Prelude
