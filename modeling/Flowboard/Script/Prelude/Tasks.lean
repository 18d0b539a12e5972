/-! Modules for other programs, for signals, for exceptions that come together, for calls beside
the script, for queues between threads, for calls whose results come later, for results that come
later, for tasks that wait for each other, in the language of scripts. -/
namespace Flowboard.Script.Prelude

/-- The module for other programs. -/
def subprocessText : String := r#"
| from _process import start as _start, emit as _emit, text as _text, find as _find
| from io import BytesIO, StringIO
| from time import monotonic as _now, sleep as _sleep
| __all__ = ['Popen', 'PIPE', 'STDOUT', 'getstatusoutput', 'getoutput', 'check_output', 'run',
|     'CalledProcessError', 'DEVNULL', 'SubprocessError', 'TimeoutExpired', 'CompletedProcess']
| PIPE, STDOUT, DEVNULL = (-1, -2, -3)

| class SubprocessError(Exception):
|     pass

| class CalledProcessError(SubprocessError):

|     def __init__(self, returncode, cmd, output=None, stderr=None):
|         self.returncode = returncode
|         self.cmd = cmd
|         self.output = output
|         self.stderr = stderr

|     def __str__(self):
|         if self.returncode and self.returncode < 0:
|             names = dict([(1, 'SIGHUP'), (2, 'SIGINT'), (6, 'SIGABRT'), (9, 'SIGKILL'), (11,
|                 'SIGSEGV'), (13, 'SIGPIPE'), (15, 'SIGTERM')])
|             number = -self.returncode
|             if number in names:
|                 return "Command '%s' died with <Signals.%s: %d>." % (self.cmd, names[number],
|                     number)
|             return "Command '%s' died with unknown signal %d." % (self.cmd, number)
|         return "Command '%s' returned non-zero exit status %d." % (self.cmd, self.returncode)

| class TimeoutExpired(SubprocessError):
|     pass

| class CompletedProcess:

|     def __init__(self, args, returncode, stdout=None, stderr=None):
|         self.args = args
|         self.returncode = returncode
|         self.stdout = stdout
|         self.stderr = stderr

| class _Feed:

|     def __init__(self, process):
|         self._process = process
|         self._parts = []
|         self.closed = False

|     def write(self, data):
|         if self.closed:
|             raise ValueError('write to closed file')
|         if isinstance(data, str):
|             if not self._process._as_text:
|                 raise TypeError("a bytes-like object is required, not 'str'")
|             data = data.encode(self._process.encoding or 'utf-8')
|         self._parts.append(bytes(data))
|         return len(data)

| class _Pipe:

|     def __init__(self, process, index):
|         self._process = process
|         self._index = index
|         self._source = None
|         self.closed = False

|     def _load(self):
|         if self._source is None:
|             data = self._process._result()[self._index]
|             if self._process._as_text:
|                 self._source = StringIO(self._process._decode(data))
|             else:
|                 self._source = BytesIO(data)
|         return self._source

|     def read(self, size=-1):
|         return self._load().read(size)

| class Popen:
|     _last = 4321

|     def __init__(self, args, bufsize=-1, executable=None, stdin=None, stdout=None, stderr=None,
|         preexec_fn=None, close_fds=True, shell=False, cwd=None, env=None,
|         universal_newlines=None, startupinfo=None, creationflags=0, restore_signals=True,
|         start_new_session=False, pass_fds=(), *, user=None, group=None, extra_groups=None,
|         encoding=None, errors=None, text=None, umask=-1, pipesize=-1, process_group=None):
|         self.args = args
|         self.encoding = encoding
|         self.errors = errors
|         self._as_text = bool(text or universal_newlines or encoding or errors)
|         self.returncode = None
|         self._targets = (stdout, stderr)
|         Popen._last += 1
|         self.pid = Popen._last
|         command, program = _text(args, bool(shell))
|         if cwd is not None:
|             cwd = cwd if isinstance(cwd, str) else str(cwd)
|         if not shell:
|             _find(program, cwd)
|         elif cwd is not None:
|             _find('/bin/sh', cwd)
|         if env is not None:
|             env = [(str(a), str(b)) for a, b in env.items()]
|         self._command = (command, cwd, env)
|         self._done = None
|         self._feed = b''
|         self.stdin = _Feed(self) if stdin == PIPE and isinstance(stdin, int) else None
|         self.stdout = _Pipe(self, 1) if isinstance(stdout, int) and stdout == PIPE else None
|         self.stderr = _Pipe(self, 2) if isinstance(stderr, int) and stderr == PIPE else None
|         self._started = _now()
|         if stdin is not None and (not isinstance(stdin, int)):
|             data = stdin.read()
|             self._feed = data.encode() if isinstance(data, str) else data
|         if self.stdin is None:
|             self._launch()

|     def _launch(self):
|         if self._done is None:
|             feed = self._feed + (b''.join(self.stdin._parts) if self.stdin else b'')
|             given = feed if self.stdin is not None or feed else None
|             command, cwd, env = self._command
|             status, out, err, span = _start(command, given, cwd, env)
|             out_target, err_target = self._targets
|             if isinstance(err_target, int) and err_target == STDOUT:
|                 out, err = (out + err, b'')
|             self._done = (status, out, err)
|             self._deadline = self._started + span
|             if status is None:
|                 self._deadline = float('inf')
|             self._deliver(out_target, out, 1)
|             if not (isinstance(err_target, int) and err_target == STDOUT):
|                 self._deliver(err_target, err, 2)

|     def _deliver(self, target, data, fd):
|         if target is None:
|             _emit(fd, data)
|         elif not isinstance(target, int):
|             if hasattr(target, 'mode') and 'b' in target.mode:
|                 target.write(data)
|             elif target is __import__('sys').stdout or target is __import__('sys').stderr:
|                 _emit(1 if target is __import__('sys').stdout else 2, data)
|             else:
|                 target.write(data.decode())
|         elif target == 1 or target == 2:
|             _emit(target, data)

|     def _decode(self, data):
|         text = data.decode(self.encoding or 'utf-8', self.errors or 'strict')
|         return text.replace('\r\n', '\n').replace('\r', '\n')

|     def _result(self):
|         self.wait()
|         return self._done

|     def wait(self, timeout=None):
|         if self.returncode is not None:
|             return self.returncode
|         self._launch()
|         left = self._deadline - _now()
|         if timeout is not None and left > timeout:
|             _sleep(timeout)
|             raise TimeoutExpired(self.args, timeout)
|         if left == float('inf'):
|             while True:
|                 _sleep(1000)
|         if left > 0:
|             _sleep(left)
|         self.returncode = self._done[0]
|         return self.returncode

|     def communicate(self, input=None, timeout=None):
|         if input is not None and self.stdin is not None:
|             self.stdin.write(input)
|         if self.stdin is not None and (not self.stdin.closed):
|             self.stdin.closed = True
|             self._launch()
|         try:
|             self.wait(timeout)
|         except TimeoutExpired:
|             raise
|         out = self.stdout.read() if self.stdout is not None else None
|         err = self.stderr.read() if self.stderr is not None else None
|         return (out, err)

| def run(*popenargs, input=None, capture_output=False, timeout=None, check=False, **kwargs):
|     if input is not None:
|         if kwargs.get('stdin') is not None:
|             raise ValueError('stdin and input arguments may not both be used.')
|         kwargs['stdin'] = PIPE
|     if capture_output:
|         if kwargs.get('stdout') is not None or kwargs.get('stderr') is not None:
|             raise ValueError('stdout and stderr arguments may not be used with capture_output.')
|         kwargs['stdout'] = PIPE
|         kwargs['stderr'] = PIPE
|     process = Popen(*popenargs, **kwargs)
|     try:
|         stdout, stderr = process.communicate(input, timeout=timeout)
|     except TimeoutExpired:
|         process.kill()
|         raise
|     if check and process.returncode:
|         raise CalledProcessError(process.returncode, process.args, output=stdout, stderr=stderr)
|     return CompletedProcess(process.args, process.returncode, stdout, stderr)

| def check_output(*popenargs, timeout=None, **kwargs):
|     return run(*popenargs, stdout=PIPE, timeout=timeout, check=True, **kwargs).stdout

| def getstatusoutput(cmd, *, encoding=None, errors=None):
|     done = run(cmd, shell=True, text=True, stdout=PIPE, stderr=STDOUT)
|     data = done.stdout
|     if data[-1:] == '\n':
|         data = data[:-1]
|     return (done.returncode, data)

| def getoutput(cmd, *, encoding=None, errors=None):
|     return getstatusoutput(cmd)[1]
"#

def signalText : String := r#"
| """Signals."""
| from enum import IntEnum as _IntEnum
| from _signal import alarm, pause, raise_signal as _raise, signal as _signal
| Signals = _IntEnum('Signals', [('SIGHUP', 1), ('SIGINT', 2), ('SIGQUIT', 3), ('SIGILL', 4),
|     ('SIGTRAP', 5), ('SIGABRT', 6), ('SIGBUS', 7), ('SIGFPE', 8), ('SIGKILL', 9), ('SIGUSR1',
|     10), ('SIGSEGV', 11), ('SIGUSR2', 12), ('SIGPIPE', 13), ('SIGALRM', 14), ('SIGTERM', 15),
|     ('SIGSTKFLT', 16), ('SIGCHLD', 17), ('SIGCONT', 18), ('SIGSTOP', 19), ('SIGTSTP', 20),
|     ('SIGTTIN', 21), ('SIGTTOU', 22), ('SIGURG', 23), ('SIGXCPU', 24), ('SIGXFSZ', 25),
|     ('SIGVTALRM', 26), ('SIGPROF', 27), ('SIGWINCH', 28), ('SIGIO', 29), ('SIGPWR', 30),
|     ('SIGSYS', 31), ('SIGRTMIN', 34), ('SIGRTMAX', 64), ('SIGIOT', 6), ('SIGCLD', 17),
|     ('SIGPOLL', 29)], module='signal')
| globals().update(Signals.__members__)
| Handlers = _IntEnum('Handlers', [('SIG_DFL', 0), ('SIG_IGN', 1)], module='signal')
| SIG_DFL, SIG_IGN = (Handlers.SIG_DFL, Handlers.SIG_IGN)
| Sigmasks = _IntEnum('Sigmasks', [('SIG_BLOCK', 0), ('SIG_UNBLOCK', 1), ('SIG_SETMASK', 2)],
|     module='signal')
| SIG_BLOCK, SIG_UNBLOCK, SIG_SETMASK = (Sigmasks.SIG_BLOCK, Sigmasks.SIG_UNBLOCK,
|     Sigmasks.SIG_SETMASK)

| def _shown(number, handler):
|     if handler is None:
|         if number == 2:
|             return default_int_handler
|         return SIG_IGN if number in (13, 25) else SIG_DFL
|     return _known(handler, Handlers) if isinstance(handler, int) else handler

| def signal(signalnum, handler):
|     if isinstance(handler, int):
|         handler = int(handler)
|         if handler not in (0, 1):
|             raise TypeError('signal handler must be signal.SIG_IGN, signal.SIG_DFL, or a '
|     'callable object')
|     elif not callable(handler):
|         raise TypeError('signal handler must be signal.SIG_IGN, signal.SIG_DFL, or a '
|     'callable object')
|     return _shown(int(signalnum), _signal(int(signalnum), handler))
"#

/-- The module for exceptions that come together. -/
def innerGroupsText : String := r#"
| def _matches(kind):
|     if isinstance(kind, (type, tuple)):
|         return lambda e: isinstance(e, kind)
|     return kind

| class BaseExceptionGroup(BaseException):

|     def __new__(cls, message, exceptions):
|         if not isinstance(message, str):
|             raise TypeError('argument 1 must be str, not ' + type(message).__name__)
|         if not hasattr(type(exceptions), '__getitem__'):
|             raise TypeError('second argument (exceptions) must be a sequence')
|         if not exceptions:
|             raise ValueError('second argument (exceptions) must be a non-empty sequence')
|         for i, e in enumerate(exceptions):
|             if not isinstance(e, BaseException):
|                 raise ValueError('Item %d of second argument (exceptions) is not an exception'
|                     % i)
|         if cls is BaseExceptionGroup:
|             if all((isinstance(e, Exception) for e in exceptions)):
|                 cls = ExceptionGroup
|         elif issubclass(cls, Exception):
|             for e in exceptions:
|                 if not isinstance(e, Exception):
|                     raise TypeError('Cannot nest BaseExceptions in an ExceptionGroup'
|                         if cls is ExceptionGroup else "Cannot nest BaseExceptions in '%s'"
|                         % cls.__name__)
|         self = BaseException.__new__(cls, message, exceptions)
|         self._message = message
|         self._exceptions = tuple(exceptions)
|         return self

|     def __init__(self, message, exceptions, *rest):
|         self.args = (message, exceptions) + rest

|     @property
|     def message(self):
|         return self._message

|     @property
|     def exceptions(self):
|         return self._exceptions

|     def derive(self, excs):
|         return BaseExceptionGroup(self.message, excs)

|     def _derived(self, excs):
|         made = self.derive(excs)
|         made.__cause__ = self.__cause__
|         made.__context__ = self.__context__
|         made.__traceback__ = self.__traceback__
|         if hasattr(self, '__notes__'):
|             made.__notes__ = list(self.__notes__)
|         return made

|     def split(self, condition):
|         test = _matches(condition)
|         if test(self):
|             return (self, None)
|         yes, no = ([], [])
|         for e in self.exceptions:
|             if isinstance(e, BaseExceptionGroup):
|                 a, b = e.split(condition)
|                 if a is not None:
|                     yes.append(a)
|                 if b is not None:
|                     no.append(b)
|             elif test(e):
|                 yes.append(e)
|             else:
|                 no.append(e)
|         return (self._derived(yes) if yes else None, self._derived(no) if no else None)

| class ExceptionGroup(BaseExceptionGroup, Exception):
|     pass
| for _kind in (BaseExceptionGroup, ExceptionGroup):
|     _kind.__module__ = 'builtins'

| class Handling:

|     def __init__(self, exc):
|         self.whole = exc
|         self.naked = not isinstance(exc, BaseExceptionGroup)
|         self.rest = exc
|         self.raised = []

|     def take(self, kinds):
|         for kind in kinds if isinstance(kinds, tuple) else (kinds,):
|             if issubclass(kind, BaseExceptionGroup):
|                 raise TypeError('catching ExceptionGroup with except* is not allowed. '
|      'Use except instead.')
|         if self.rest is None:
|             return None
|         if self.naked:
|             if not isinstance(self.whole, kinds):
|                 return None
|             self.rest = None
|             return BaseExceptionGroup('', (self.whole,))
|         found, self.rest = self.rest.split(kinds)
|         return found

|     def finish(self):
|         if not self.raised:
|             if self.rest is None:
|                 return None
|             return self.whole if self.naked else self.rest
|         if self.naked:
|             return self.raised[0]
|         found = list(self.raised)
|         if self.rest is not None:
|             found.append(self.rest)
|         return BaseExceptionGroup('', found)
"#

/-- The module for calls beside the script. -/
def threadingText : String := r#"
| from _threads import start as _start, wait as _wait, current as _current
| from atexit import register as _register
| __all__ = ['get_ident', 'current_thread', 'Event', 'RLock', 'Thread', 'local', 'ExceptHookArgs']

| class _RLock:

|     def __init__(self):
|         self._owner = None
|         self._count = 0

|     def acquire(self, blocking=True, timeout=-1):
|         me = _current()
|         if self._count and self._owner != me:
|             if not blocking:
|                 return False
|             if not _wait(lambda: not self._count, None if timeout == -1 else timeout):
|                 return False
|         self._owner = me
|         self._count += 1
|         return True

|     def release(self):
|         if not self._count or self._owner != _current():
|             raise RuntimeError('cannot release un-acquired lock')
|         self._count -= 1
|         if not self._count:
|             self._owner = None

| def RLock():
|     return _RLock()

| class Event:
|     pass
| _numbers = [0]
| _alive = []
| _by_id = dict()

| def _next_number():
|     _numbers[0] += 1
|     return _numbers[0]

| class ExceptHookArgs(tuple):
|     pass

| class Thread:

|     def __init__(self, group=None, target=None, name=None, args=(), kwargs=None, *,
|         daemon=None):
|         if kwargs is None:
|             kwargs = dict()
|         if name:
|             name = str(name)
|         else:
|             name = 'Thread-%d' % _next_number()
|             if target is not None and hasattr(target, '__name__'):
|                 name += ' (%s)' % target.__name__
|         self._target = target
|         self._name = name
|         self._args = args
|         self._kwargs = kwargs
|         self._daemonic = current_thread().daemon if daemon is None else daemon
|         self._started = False
|         self._stopped = False
|         self._ident = None

|     def run(self):
|         try:
|             if self._target is not None:
|                 self._target(*self._args, **self._kwargs)
|         finally:
|             del self._target, self._args, self._kwargs

|     def _bootstrap(self):
|         self._ident = 140000000000000 + 1000 * (_current() + 1)
|         _by_id[_current()] = self
|         try:
|             self.run()
|         except BaseException as e:
|             excepthook_now = globals()['excepthook']
|             excepthook_now(ExceptHookArgs((type(e), e, e.__traceback__, self)))
|         finally:
|             self._stopped = True
|             if self in _alive:
|                 _alive.remove(self)

|     def start(self):
|         if self._started:
|             raise RuntimeError('threads can only be started once')
|         self._started = True
|         _alive.append(self)
|         _start(self._bootstrap)

|     def join(self, timeout=None):
|         if not self._started:
|             raise RuntimeError('cannot join thread before it is started')
|         if self is current_thread():
|             raise RuntimeError('cannot join current thread')
|         if timeout is not None:
|             timeout = max(timeout, 0)
|         _wait(lambda: self._stopped, timeout)

|     @property
|     def name(self):
|         return self._name

|     @property
|     def ident(self):
|         return self._ident

|     @property
|     def daemon(self):
|         return self._daemonic

| class _MainThread(Thread):

|     def __init__(self):
|         self._name = 'MainThread'
|         self._daemonic = False
|         self._started = True
|         self._stopped = False
|         self._ident = 139999999999999
| _main = _MainThread()

| class local:
|     pass

| def current_thread():
|     return _by_id.get(_current(), _main)

| def get_ident():
|     return current_thread().ident
| _exit_hooks = []

| def _shutdown():
|     for hook in reversed(_exit_hooks):
|         hook()
|     _wait(lambda: all((t._daemonic for t in _alive)), None)
| _register(_shutdown)
"#

/-- The module for queues between threads. -/
def queueText : String := r#"
| from _threads import wait as _wait
| from collections import deque
| from heapq import heappush, heappop
| __all__ = ['Empty', 'Full', 'Queue']

| class Empty(Exception):
|     __module__ = '_queue'

| class Full(Exception):
|     pass

| class Queue:

|     def __init__(self, maxsize=0):
|         self.maxsize = maxsize
|         self._init(maxsize)
|         self.unfinished_tasks = 0

|     def _init(self, maxsize):
|         self.queue = deque()

|     def _qsize(self):
|         return len(self.queue)

|     def _put(self, item):
|         self.queue.append(item)

|     def _get(self):
|         return self.queue.popleft()

|     def full(self):
|         return 0 < self.maxsize <= self._qsize()

|     def put(self, item, block=True, timeout=None):
|         if self.full():
|             if not block:
|                 raise Full
|             if timeout is not None and timeout < 0:
|                 raise ValueError("'timeout' must be a non-negative number")
|             if not _wait(lambda: not self.full(), timeout):
|                 raise Full
|         self._put(item)
|         self.unfinished_tasks += 1

|     def get(self, block=True, timeout=None):
|         if not self._qsize():
|             if not block:
|                 raise Empty
|             if timeout is not None and timeout < 0:
|                 raise ValueError("'timeout' must be a non-negative number")
|             if not _wait(lambda: self._qsize() > 0, timeout):
|                 raise Empty
|         return self._get()
"#

/-- The module for calls whose results come later. -/
def concurrentText : String := r#"
| pass
"#

/-- The module for results that come later. -/
def concurrentFuturesText : String := r#"
| from _threads import start as _start, wait as _wait
| from collections import deque, namedtuple
| from threading import Thread as _Thread
| from time import monotonic as _now
| __all__ = ['CancelledError', 'TimeoutError', 'InvalidStateError', 'Future', 'Executor',
|     'ThreadPoolExecutor']
| TimeoutError = TimeoutError

| class Error(Exception):
|     __module__ = 'concurrent.futures._base'

| class CancelledError(Error):
|     __module__ = 'concurrent.futures._base'

| class InvalidStateError(Error):
|     __module__ = 'concurrent.futures._base'

| class Future:
|     __module__ = 'concurrent.futures._base'

|     def __init__(self):
|         self._state = 'PENDING'
|         self._result = None
|         self._exception = None
|         self._callbacks = []
|         self._order = 0

|     def done(self):
|         return self._state in ('CANCELLED', 'FINISHED')

|     def _notify(self):
|         _finished[0] += 1
|         self._order = _finished[0]
|         for f in self._callbacks:
|             try:
|                 f(self)
|             except Exception:
|                 pass

|     def _await(self, timeout):
|         if not _wait(self.done, timeout):
|             raise TimeoutError()
|         if self._state == 'CANCELLED':
|             raise CancelledError()

|     def result(self, timeout=None):
|         self._await(timeout)
|         if self._exception is not None:
|             raise self._exception
|         return self._result

|     def set_running_or_notify_cancel(self):
|         if self._state == 'CANCELLED':
|             return False
|         self._state = 'RUNNING'
|         return True

|     def set_result(self, result):
|         if self.done():
|             raise InvalidStateError('%s: %r' % (self._state, self))
|         self._result = result
|         self._state = 'FINISHED'
|         self._notify()
| _finished = [0]
| _executors = []

| class Executor:

|     def map(self, fn, *iterables, timeout=None, chunksize=1):
|         finish = None if timeout is None else _now() + timeout
|         futures = [self.submit(fn, *args) for args in zip(*iterables)]

|         def results():
|             try:
|                 futures.reverse()
|                 while futures:
|                     f = futures.pop()
|                     if finish is None:
|                         yield f.result()
|                     else:
|                         yield f.result(finish - _now())
|             finally:
|                 for f in futures:
|                     f.cancel()
|         return results()

|     def __enter__(self):
|         return self

|     def __exit__(self, *exc):
|         self.shutdown(wait=True)
|         return False

| class ThreadPoolExecutor(Executor):
|     _number = 0

|     def __init__(self, max_workers=None, thread_name_prefix='', initializer=None, initargs=()):
|         if max_workers is None:
|             max_workers = 8
|         if max_workers <= 0:
|             raise ValueError('max_workers must be greater than 0')
|         ThreadPoolExecutor._number += 1
|         self._max_workers = max_workers
|         self._prefix = thread_name_prefix or 'ThreadPoolExecutor-%d' % (ThreadPoolExecutor._number - 1)
|         self._initializer = initializer
|         self._initargs = initargs
|         self._work = deque()
|         self._threads = []
|         self._idle = 0
|         self._shutdown = False
|         _executors.append(self)

|     def submit(self, fn, /, *args, **kwargs):
|         if self._shutdown:
|             raise RuntimeError('cannot schedule new futures after shutdown')
|         f = Future()
|         self._work.append((f, fn, args, kwargs))
|         if self._idle:
|             self._idle -= 1
|         elif len(self._threads) < self._max_workers:
|             t = _Thread(target=self._worker, name='%s_%d' % (self._prefix, len(self._threads)))
|             self._threads.append(t)
|             t.start()
|         return f

|     def _worker(self):
|         if self._initializer is not None:
|             self._initializer(*self._initargs)
|         while True:
|             if not self._work:
|                 if self._shutdown:
|                     return
|                 self._idle += 1
|                 _wait(lambda: self._work or self._shutdown, None)
|                 if not self._work:
|                     return
|             f, fn, args, kwargs = self._work.popleft()
|             if not f.set_running_or_notify_cancel():
|                 continue
|             try:
|                 result = fn(*args, **kwargs)
|             except BaseException as e:
|                 f.set_exception(e)
|             else:
|                 f.set_result(result)

|     def shutdown(self, wait=True, *, cancel_futures=False):
|         self._shutdown = True
|         if cancel_futures:
|             while self._work:
|                 self._work.popleft()[0].cancel()
|         if wait:
|             for t in self._threads:
|                 t.join()
| DoneAndNotDoneFutures = namedtuple('DoneAndNotDoneFutures', 'done not_done')
"#

/-- The module for tasks that wait for each other. -/
def asyncioText : String := r#"
| from _threads import wait as _wait
| from collections import deque
| from heapq import heappush, heappop
| from time import monotonic as _now
| _types = __import__('types')
| TimeoutError = TimeoutError

| class CancelledError(BaseException):
|     __module__ = 'asyncio.exceptions'

| class InvalidStateError(Exception):
|     __module__ = 'asyncio.exceptions'
| _running = [None]
| _current_loop = [None]

| class Handle:

|     def __init__(self, callback, args, loop):
|         self._callback = callback
|         self._args = args
|         self._loop = loop
|         self._cancelled = False

|     def cancel(self):
|         self._cancelled = True

|     def _run(self):
|         try:
|             self._callback(*self._args)
|         except (SystemExit, KeyboardInterrupt):
|             raise
|         except BaseException as e:
|             self._loop.call_exception_handler(dict(message='Exception in callback',
|                 exception=e))

| class TimerHandle(Handle):

|     def __init__(self, when, callback, args, loop):
|         super().__init__(callback, args, loop)
|         self._when = when

| class AbstractEventLoop:
|     pass

| class BaseEventLoop(AbstractEventLoop):

|     def __init__(self):
|         self._ready = deque()
|         self._scheduled = []
|         self._number = 0
|         self._stopping = False
|         self._closed = False
|         self._tasks = []
|         self._current = None
|         self._debug = False
|         self._handler = None
|         self._executor = None

|     def time(self):
|         return _now()

|     def call_soon(self, callback, *args, context=None):
|         self._check_closed()
|         handle = Handle(callback, args, self)
|         self._ready.append(handle)
|         return handle
|     call_soon_threadsafe = call_soon

|     def call_later(self, delay, callback, *args, context=None):
|         return self.call_at(self.time() + delay, callback, *args)

|     def call_at(self, when, callback, *args, context=None):
|         self._check_closed()
|         handle = TimerHandle(when, callback, args, self)
|         self._number += 1
|         heappush(self._scheduled, (when, self._number, handle))
|         return handle

|     def _check_closed(self):
|         if self._closed:
|             raise RuntimeError('Event loop is closed')

|     def create_future(self):
|         return Future(loop=self)

|     def create_task(self, coro, *, name=None, context=None):
|         self._check_closed()
|         return Task(coro, loop=self, name=name)

|     def _run_once(self):
|         while self._scheduled and self._scheduled[0][2]._cancelled:
|             heappop(self._scheduled)
|         if not self._ready and (not self._stopping):
|             limit = None
|             if self._scheduled:
|                 limit = max(0, self._scheduled[0][0] - self.time())
|             _wait(lambda: len(self._ready) > 0, limit)
|         finish = self.time() + 1e-06
|         while self._scheduled and self._scheduled[0][0] <= finish:
|             handle = heappop(self._scheduled)[2]
|             if not handle._cancelled:
|                 self._ready.append(handle)
|         for i in range(len(self._ready)):
|             handle = self._ready.popleft()
|             if not handle._cancelled:
|                 handle._run()

|     def run_forever(self):
|         self._check_closed()
|         if self.is_running():
|             raise RuntimeError('This event loop is already running')
|         if _running[0] is not None:
|             raise RuntimeError('Cannot run the event loop while another loop is running')
|         _running[0] = self
|         try:
|             while True:
|                 self._run_once()
|                 if self._stopping:
|                     break
|         finally:
|             self._stopping = False
|             _running[0] = None

|     def run_until_complete(self, future):
|         self._check_closed()
|         if self.is_running():
|             raise RuntimeError('This event loop is already running')
|         future = ensure_future(future, loop=self)
|         future.add_done_callback(self._stop_for)
|         try:
|             self.run_forever()
|         finally:
|             future.remove_done_callback(self._stop_for)
|         if not future.done():
|             raise RuntimeError('Event loop stopped before Future completed.')
|         return future.result()

|     def _stop_for(self, future):
|         self.stop()

|     def stop(self):
|         self._stopping = True

|     def is_running(self):
|         return _running[0] is self

|     def close(self):
|         if self.is_running():
|             raise RuntimeError('Cannot close a running event loop')
|         self._closed = True

| class SelectorEventLoop(BaseEventLoop):
|     pass

| class Future:
|     __module__ = '_asyncio'
|     _asyncio_future_blocking = False

|     def __init__(self, *, loop=None):
|         self._loop = loop if loop is not None else get_event_loop()
|         self._state = 'PENDING'
|         self._result = None
|         self._exception = None
|         self._callbacks = []
|         self._cancel_message = None

|     def cancelled(self):
|         return self._state == 'CANCELLED'

|     def done(self):
|         return self._state != 'PENDING'

|     def cancel(self, msg=None):
|         if self._state != 'PENDING':
|             return False
|         self._state = 'CANCELLED'
|         self._cancel_message = msg
|         self._schedule()
|         return True

|     def _cancelled_error(self):
|         if self._cancel_message is None:
|             return CancelledError()
|         return CancelledError(self._cancel_message)

|     def _schedule(self):
|         callbacks = self._callbacks
|         self._callbacks = []
|         for callback in callbacks:
|             self._loop.call_soon(callback, self)

|     def result(self):
|         if self._state == 'CANCELLED':
|             raise self._cancelled_error()
|         if self._state == 'PENDING':
|             raise InvalidStateError('Result is not set.')
|         if self._exception is not None:
|             raise self._exception
|         return self._result

|     def add_done_callback(self, fn, *, context=None):
|         if self._state != 'PENDING':
|             self._loop.call_soon(fn, self)
|         else:
|             self._callbacks.append(fn)

|     def remove_done_callback(self, fn):
|         kept = [f for f in self._callbacks if f != fn]
|         removed = len(self._callbacks) - len(kept)
|         self._callbacks[:] = kept
|         return removed

|     def set_result(self, result):
|         if self._state != 'PENDING':
|             raise InvalidStateError('invalid state')
|         self._result = result
|         self._state = 'FINISHED'
|         self._schedule()

|     def __await__(self):
|         if not self.done():
|             self._asyncio_future_blocking = True
|             yield self
|         if not self.done():
|             raise RuntimeError("await wasn't used with future")
|         return self.result()
|     __iter__ = __await__
| _task_number = [0]

| class Task(Future):
|     __module__ = '_asyncio'

|     def __init__(self, coro, *, loop=None, name=None, context=None):
|         super().__init__(loop=loop)
|         if not iscoroutine(coro):
|             raise TypeError('a coroutine was expected, got %r' % (coro,))
|         if name is None:
|             _task_number[0] += 1
|             name = 'Task-%d' % _task_number[0]
|         self._name = str(name)
|         self._coro = coro
|         self._must_cancel = False
|         self._waiter = None
|         self._num_cancels = 0
|         self._loop._tasks.append(self)
|         self._loop.call_soon(self._step)

|     def cancel(self, msg=None):
|         if self.done():
|             return False
|         self._num_cancels += 1
|         if self._waiter is not None:
|             if self._waiter.cancel(msg=msg):
|                 return True
|         self._must_cancel = True
|         self._cancel_message = msg
|         return True

|     def _finish(self):
|         if self in self._loop._tasks:
|             self._loop._tasks.remove(self)

|     def _step(self, exc=None):
|         if self.done():
|             return
|         if self._must_cancel:
|             if not isinstance(exc, CancelledError):
|                 exc = self._cancelled_error()
|             self._must_cancel = False
|         self._waiter = None
|         before = self._loop._current
|         self._loop._current = self
|         try:
|             if exc is None:
|                 result = self._coro.send(None)
|             else:
|                 result = self._coro.throw(exc)
|         except StopIteration as e:
|             self._finish()
|             if self._must_cancel:
|                 self._must_cancel = False
|                 super().cancel(msg=self._cancel_message)
|             else:
|                 super().set_result(e.value)
|         except CancelledError as e:
|             self._finish()
|             super().cancel(msg=e.args[0] if e.args else None)
|         except (KeyboardInterrupt, SystemExit) as e:
|             self._finish()
|             super().set_exception(e)
|             raise
|         except BaseException as e:
|             self._finish()
|             super().set_exception(e)
|         else:
|             if isinstance(result, Future):
|                 if result is self:
|                     self._loop.call_soon(self._step,
|                         RuntimeError('Task cannot await on itself: %r' % self))
|                 else:
|                     result._asyncio_future_blocking = False
|                     result.add_done_callback(self._wakeup)
|                     self._waiter = result
|                     if self._must_cancel:
|                         if self._waiter.cancel(msg=self._cancel_message):
|                             self._must_cancel = False
|             elif result is None:
|                 self._loop.call_soon(self._step)
|             else:
|                 self._loop.call_soon(self._step, RuntimeError('Task got bad yield: %r'
|                     % (result,)))
|         finally:
|             self._loop._current = before

|     def _wakeup(self, future):
|         try:
|             future.result()
|         except BaseException as e:
|             self._step(e)
|         else:
|             self._step()

| def iscoroutine(obj):
|     return isinstance(obj, _types.CoroutineType)

| def isfuture(obj):
|     return isinstance(obj, Future)

| def ensure_future(coro_or_future, *, loop=None):
|     if isfuture(coro_or_future):
|         return coro_or_future
|     if not iscoroutine(coro_or_future):
|         if hasattr(type(coro_or_future), '__await__'):
|             coro_or_future = _wrap_awaitable(coro_or_future)
|         else:
|             raise TypeError('An asyncio.Future, a coroutine or an awaitable is required')
|     if loop is None:
|         loop = get_event_loop()
|     return loop.create_task(coro_or_future)

| def get_running_loop():
|     if _running[0] is None:
|         raise RuntimeError('no running event loop')
|     return _running[0]

| def new_event_loop():
|     return SelectorEventLoop()

| def _cancel_all(loop):
|     left = list(loop._tasks)
|     if not left:
|         return
|     for task in left:
|         task.cancel()
|     loop.run_until_complete(gather(*left, return_exceptions=True))

| def run(main, *, debug=None):
|     if _running[0] is not None:
|         raise RuntimeError('asyncio.run() cannot be called from a running event loop')
|     if not iscoroutine(main):
|         raise ValueError('a coroutine was expected, got %r' % (main,))
|     loop = new_event_loop()
|     before = _current_loop[0]
|     _current_loop[0] = loop
|     try:
|         return loop.run_until_complete(loop.create_task(main))
|     finally:
|         try:
|             _cancel_all(loop)
|         finally:
|             _current_loop[0] = before
|             loop.close()

| class _Pause:
|     pass

| async def sleep(delay, result=None):
|     if delay <= 0:
|         await _Pause()
|         return result
|     loop = get_running_loop()
|     future = loop.create_future()

|     def wake():
|         if not future.done():
|             future.set_result(result)
|     handle = loop.call_later(delay, wake)
|     try:
|         return await future
|     finally:
|         handle.cancel()

| class _GatheringFuture(Future):

|     def __init__(self, children, *, loop):
|         super().__init__(loop=loop)
|         self._children = children
|         self._cancel_requested = False

| def gather(*coros_or_futures, return_exceptions=False):
|     loop = _running[0] or get_event_loop()
|     if not coros_or_futures:
|         outer = loop.create_future()
|         outer.set_result([])
|         return outer
|     known = dict()
|     children = []
|     for arg in coros_or_futures:
|         if id(arg) not in known:
|             known[id(arg)] = ensure_future(arg, loop=loop)
|             children.append(known[id(arg)])
|     ordered = [known[id(arg)] for arg in coros_or_futures]
|     outer = _GatheringFuture(children, loop=loop)
|     count = [0]

|     def done(child):
|         count[0] += 1
|         if outer.done():
|             return
|         if not return_exceptions:
|             if child.cancelled():
|                 outer.set_exception(child._cancelled_error())
|                 return
|             if child._exception is not None:
|                 outer.set_exception(child._exception)
|                 return
|         if count[0] == len(children):
|             results = []
|             for f in ordered:
|                 if f.cancelled():
|                     results.append(CancelledError('' if f._cancel_message is None
|                         else f._cancel_message) if f._cancel_message else CancelledError())
|                 elif f._exception is not None:
|                     results.append(f._exception)
|                 else:
|                     results.append(f._result)
|             if outer._cancel_requested:
|                 outer.set_exception(CancelledError())
|             else:
|                 outer.set_result(results)
|     for child in children:
|         child.add_done_callback(done)
|     return outer

| async def _cancel_and_wait(future):
|     loop = get_running_loop()
|     waiter = loop.create_future()

|     def done(f):
|         if not waiter.done():
|             waiter.set_result(None)
|     future.add_done_callback(done)
|     try:
|         future.cancel()
|         await waiter
|     finally:
|         future.remove_done_callback(done)

| async def wait_for(fut, timeout):
|     loop = get_running_loop()
|     if timeout is None:
|         return await fut
|     if timeout <= 0:
|         fut = ensure_future(fut, loop=loop)
|         if fut.done():
|             return fut.result()
|         await _cancel_and_wait(fut)
|         try:
|             return fut.result()
|         except CancelledError as exc:
|             raise TimeoutError() from exc
|     waiter = loop.create_future()

|     def release(*args):
|         if not waiter.done():
|             waiter.set_result(None)
|     handle = loop.call_later(timeout, release)
|     fut = ensure_future(fut, loop=loop)
|     fut.add_done_callback(release)
|     try:
|         try:
|             await waiter
|         except CancelledError:
|             if fut.done():
|                 return fut.result()
|             fut.remove_done_callback(release)
|             await _cancel_and_wait(fut)
|             raise
|         if fut.done():
|             return fut.result()
|         fut.remove_done_callback(release)
|         await _cancel_and_wait(fut)
|         try:
|             return fut.result()
|         except CancelledError as exc:
|             raise TimeoutError() from exc
|     finally:
|         handle.cancel()

| class Event:
|     pass

| class Queue:
|     pass

| class _Subprocess:
|     PIPE, STDOUT, DEVNULL = (-1, -2, -3)
| subprocess = _Subprocess()
"#

end Flowboard.Script.Prelude
