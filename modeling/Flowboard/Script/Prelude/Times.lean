/-! Modules for calendars, for dates and times, for times read from texts, for clocks, for
languages and places, in the language of scripts. -/
namespace Flowboard.Script.Prelude

def calendarText : String := r#"
| from datetime import date as _date
| __all__ = ('IllegalMonthError IllegalWeekdayError setfirstweekday firstweekday isleap leapdays '
|  'weekday monthrange monthcalendar prmonth month prcal calendar timegm month_name month_abbr '
|  'day_name day_abbr Calendar TextCalendar weekheader MONDAY TUESDAY WEDNESDAY THURSDAY FRIDAY '
|  'SATURDAY SUNDAY').split()
| MONDAY, TUESDAY, WEDNESDAY, THURSDAY, FRIDAY, SATURDAY, SUNDAY = range(7)
| January, February, error = (1, 2, ValueError)
| mdays = [0, 31, 28, 31, 30, 31, 30, 31, 31, 30, 31, 30, 31]
| day_name, day_abbr = [[_date(2001, 1, d).strftime(f) for d in range(1, 8)] for f in ('%A',
|     '%a')]
| month_name, month_abbr = [[''] + [_date(2001, m, 1).strftime(f) for m in range(1, 13)]
|     for f in ('%B', '%b')]

| class IllegalMonthError(ValueError):
|     pass

| class IllegalWeekdayError(ValueError):
|     pass

| def isleap(year):
|     return year % 4 == 0 and (year % 100 != 0 or year % 400 == 0)

| def weekday(year, month, day):
|     return _date(year if 1 <= year <= 9999 else 2000 + year % 400, month, day).weekday()

| def monthrange(year, month):
|     if not 1 <= month <= 12:
|         raise IllegalMonthError(month)
|     return (weekday(year, month, 1), mdays[month] + (month == 2 and isleap(year)))

| def _rows(items, n=7):
|     items = list(items)
|     return [items[i:i + n] for i in range(0, len(items), n)]

| class Calendar:

|     def __init__(self, firstweekday=0):
|         self.firstweekday = firstweekday

|     def getfirstweekday(self):
|         return self._firstweekday % 7

|     def setfirstweekday(self, firstweekday):
|         self._firstweekday = firstweekday
|     firstweekday = property(getfirstweekday, setfirstweekday)

|     def iterweekdays(self):
|         yield from [i % 7 for i in range(self.firstweekday, self.firstweekday + 7)]

|     def itermonthdays3(self, year, month):
|         day1, n = monthrange(year, month)
|         y, m = (year - 1, 12) if month == 1 else (year, month - 1)
|         end = mdays[m] + (m == 2 and isleap(y)) + 1
|         yield from [(y, m, d) for d in range(end - (day1 - self.firstweekday) % 7, end)]
|         yield from [(year, month, d) for d in range(1, n + 1)]
|         y, m = (year + 1, 1) if month == 12 else (year, month + 1)
|         yield from [(y, m, d + 1) for d in range((self.firstweekday - day1 - n) % 7)]

|     def itermonthdays4(self, year, month):
|         for i, day in enumerate(self.itermonthdays3(year, month)):
|             yield (*day, (self.firstweekday + i) % 7)

|     def itermonthdays2(self, year, month):
|         for _, m, d, w in self.itermonthdays4(year, month):
|             yield (d if m == month else 0, w)

|     def monthdays2calendar(self, year, month):
|         return _rows(self.itermonthdays2(year, month))

| class TextCalendar(Calendar):

|     def formatday(self, day, weekday, width):
|         return ('%2i' % day if day else '').center(width)

|     def formatweek(self, theweek, width):
|         return ' '.join([self.formatday(d, w, width) for d, w in theweek])

|     def formatweekday(self, day, width):
|         return (day_name if width >= 9 else day_abbr)[day][:width].center(width)

|     def formatweekheader(self, width):
|         return ' '.join([self.formatweekday(i, width) for i in self.iterweekdays()])

|     def formatmonthname(self, theyear, themonth, width, withyear=True):
|         name = month_name[themonth]
|         return ('%s %r' % (name, theyear) if withyear else name).center(width)

|     def formatmonth(self, theyear, themonth, w=0, l=0):
|         w = max(2, w)
|         return ''.join([line.rstrip() + '\n' * max(1, l)
|             for line in [self.formatmonthname(theyear, themonth, 7 * (w + 1) - 1),
|             self.formatweekheader(w)] + [self.formatweek(week, w)
|             for week in self.monthdays2calendar(theyear, themonth)]])
| c = TextCalendar()
| firstweekday, week = (c.getfirstweekday, c.formatweek)
| weekheader, month = (c.formatweekheader, c.formatmonth)
"#

def datetimeText : String := r#"
| import time as _time
| from math import modf as _modf
| from operator import index as _index
| MINYEAR, MAXYEAR, _LAST = (1, 9999, 3652059)
| _DAYS = (31, 28, 31, 30, 31, 30, 31, 31, 30, 31, 30, 31)

| class _Field:
|     __slots__ = ('name', 'title')

|     def __init__(self, name, title):
|         self.name = name
|         self.title = title

|     def __get__(self, obj, cls=None):
|         return self if obj is None else getattr(obj, '_' + self.name)
|     __delete__ = lambda self, obj: self.__set__(obj, None)

| def _finish(cls, fields=''):
|     setattr(cls, '.title', 'datetime.' + cls.__name__)
|     for name in fields.split():
|         setattr(cls, name, _Field(name, 'datetime.' + cls.__name__))

| def _cmp(x, y):
|     return 0 if x == y else 1 if x > y else -1

| def _orders():

|     def order(test, mixed=False):

|         def compare(self, other):
|             found = self._compared(other, mixed)
|             return NotImplemented if found is None else test(found)
|         return compare
|     return (order(lambda c: c == 0, True), order(lambda c: c < 0), order(lambda c: c <= 0),
|         order(lambda c: c > 0), order(lambda c: c >= 0))

| def _is_leap(year):
|     return year % 4 == 0 and (year % 100 != 0 or year % 400 == 0)

| def _before(year, month):
|     y = year - 1
|     return y * 365 + y // 4 - y // 100 + y // 400 + sum(_DAYS[:month - 1]) + (month > 2
|         and _is_leap(year))

| def _in_month(year, month):
|     return _DAYS[month - 1] + (month == 2 and _is_leap(year))

| def _date_of(n):
|     year = (n - 1) * 400 // 146097 + 1
|     if n <= _before(year, 1):
|         year -= 1
|     elif n > _before(year + 1, 1):
|         year += 1
|     month = (n - _before(year, 1) - 1) // 31 + 1
|     while month < 12 and n > _before(year, month + 1):
|         month += 1
|     return (year, month, n - _before(year, month))

| def _first_monday(year):
|     first = _before(year, 1) + 1
|     return first + 3 - (first + 2) % 7

| def _struct(y, m, d, hh, mm, ss, summer):
|     n = _before(y, m) + d
|     return _time.struct_time((y, m, d, hh, mm, ss, (n + 6) % 7, n - _before(y, 1), summer))

| def _clock_text(hh, mm, ss, us, timespec):
|     if timespec == 'auto':
|         timespec = 'microseconds' if us else 'seconds'
|     specs = ('hours', 'minutes', 'seconds', 'milliseconds', 'microseconds')
|     if timespec not in specs:
|         raise ValueError('Unknown timespec value')
|     k = specs.index(timespec)
|     text = ':'.join(['%02d' % n for n in (hh, mm, ss)[:k + 1]])
|     return text + ('', '', '', '.%03d' % (us // 1000), '.%06d' % us)[k]

| def _offset_text(off, sep=':'):
|     if off is None:
|         return ''
|     sign, off = ('-', -off) if off.days < 0 else ('+', off)
|     mm, ss = divmod(off.seconds, 60)
|     text = sign + '%02d' % (mm // 60) + sep + '%02d' % (mm % 60)
|     if ss or off.microseconds:
|         text += sep + '%02d' % ss
|         if off.microseconds:
|             text += '.%06d' % off.microseconds
|     return text

| def _written(object, format, timetuple):
|     parts, i = ([], 0)
|     while i < len(format):
|         c = format[i:i + 2] if format[i] == '%' else format[i]
|         i += len(c)
|         if c == '%f':
|             c = '%06d' % getattr(object, 'microsecond', 0)
|         elif c == '%z':
|             c = _offset_text(object.utcoffset(), '') if hasattr(object, 'utcoffset') else ''
|         elif c == '%Z':
|             c = (hasattr(object, 'tzname') and object.tzname() or '').replace('%', '%%')
|         parts.append(c)
|     return _time.strftime(''.join(parts), timetuple)

| def _offset_checked(name, offset):
|     if offset is None:
|         return None
|     if not isinstance(offset, timedelta):
|         raise TypeError("tzinfo.%s() must return None or timedelta, not '%s'" % (name,
|             _title(offset)))
|     if not -timedelta(1) < offset < timedelta(1):
|         raise ValueError('offset must be a timedelta strictly between -timedelta(hours=24) and '
|    'timedelta(hours=24), not %r.' % (offset,))
|     return offset

| def _date_checked(*values):
|     for i, v in enumerate(values):
|         if v is None:
|             raise TypeError("function missing required argument '%s' (pos %d)" % (('year',
|                 'month', 'day')[i], i + 1))
|     year, month, day = [_index(v) for v in values]
|     if not MINYEAR <= year <= MAXYEAR:
|         raise ValueError('year %d is out of range' % year)
|     if not 1 <= month <= 12:
|         raise ValueError('month must be in 1..12')
|     if not 1 <= day <= _in_month(year, month):
|         raise ValueError('day is out of range for month')
|     return (year, month, day)

| def _zone_checked(tz):
|     if tz is not None and (not isinstance(tz, tzinfo)):
|         raise TypeError("tzinfo argument must be None or of a tzinfo subclass, not type '%s'"
|             % _title(tz))

| def _set_time(self, hour, minute, second, microsecond, zone, fold):
|     values = [_index(v) for v in (hour, minute, second, microsecond)]
|     for v, most, name in zip(values, (23, 59, 59, 999999), ('hour', 'minute', 'second',
|         'microsecond')):
|         if not 0 <= v <= most:
|             raise ValueError('%s must be in 0..%d' % (name, most))
|         setattr(self, '_' + name, v)
|     if fold not in (0, 1):
|         raise ValueError('fold must be either 0 or 1')
|     _zone_checked(zone)
|     self._tzinfo, self._fold = (zone, fold)
|     return self

| class timedelta:
|     __slots__ = ('_days', '_seconds', '_microseconds')

|     def __new__(cls, days=0, seconds=0, microseconds=0, milliseconds=0, minutes=0, hours=0,
|         weeks=0):
|         total, rest = (0, 0.0)
|         for name, v, unit in (('microseconds', microseconds, 1), ('milliseconds', milliseconds,
|             1000), ('seconds', seconds, 10 ** 6), ('minutes', minutes, 6 * 10 ** 7), ('hours',
|             hours, 36 * 10 ** 8), ('days', days, 864 * 10 ** 8), ('weeks', weeks,
|             6048 * 10 ** 8)):
|             if isinstance(v, float):
|                 part, v = _modf(v)
|                 part, whole = _modf(part * unit)
|                 total += int(whole)
|                 rest += part
|             elif not isinstance(v, int):
|                 raise TypeError('unsupported type for timedelta %s component: %s' % (name,
|                     _title(v)))
|             total += int(v) * unit
|         if rest:
|             odd = total % 2
|             total += round(rest + odd) - odd
|         return cls._of(total)

|     @classmethod
|     def _of(cls, total):
|         self = object.__new__(cls)
|         seconds, self._microseconds = divmod(total, 10 ** 6)
|         self._days, self._seconds = divmod(seconds, 86400)
|         if abs(self._days) >> 31:
|             raise OverflowError('Python int too large to convert to C int')
|         if abs(self._days) > 999999999:
|             raise OverflowError('days=%d; must have magnitude <= 999999999' % self._days)
|         return self

|     def _total(self):
|         return (self._days * 86400 + self._seconds) * 10 ** 6 + self._microseconds

|     def __str__(self):
|         mm, ss = divmod(self._seconds, 60)
|         s = '%d:%02d:%02d' % (mm // 60, mm % 60, ss)
|         if self._days:
|             s = '%d day%s, ' % (self._days, '' if abs(self._days) == 1 else 's') + s
|         return s + '.%06d' % self._microseconds if self._microseconds else s

|     def __add__(self, other):
|         if isinstance(other, timedelta):
|             return timedelta._of(self._total() + other._total())
|         return NotImplemented
|     __radd__ = __add__

|     def __neg__(self):
|         return timedelta._of(-self._total())

|     def _parts(self):
|         return (self._days, self._seconds, self._microseconds)

|     def _compared(self, other, mixed):
|         return _cmp(self._total(), other._total()) if isinstance(other, timedelta) else None
|     __eq__, __lt__, __le__, __gt__, __ge__ = _orders()

|     def __bool__(self):
|         return any(self._parts())
| _finish(timedelta, 'days seconds microseconds')
| timedelta.min, timedelta.resolution = (timedelta(-999999999), timedelta(microseconds=1))
| timedelta.max = timedelta(999999999, 86399, 999999)

| class date:
|     __slots__ = ('_year', '_month', '_day')

|     def __new__(cls, year=None, month=None, day=None):
|         self = object.__new__(cls)
|         self._year, self._month, self._day = _date_checked(year, month, day)
|         return self

|     def strftime(self, format):
|         return _written(self, format, self.timetuple())

|     def __format__(self, fmt):
|         if not isinstance(fmt, str):
|             raise TypeError('__format__() argument 1 must be str, not %s' % type(fmt).__name__)
|         return self.strftime(fmt) if fmt else str(self)

|     def isoformat(self):
|         return '%04d-%02d-%02d' % (self._year, self._month, self._day)
|     __str__ = isoformat

|     def timetuple(self):
|         return _struct(self._year, self._month, self._day, 0, 0, 0, -1)

|     def toordinal(self):
|         return _before(self._year, self._month) + self._day

|     def _parts(self):
|         return (self._year, self._month, self._day)
|     __eq__, __lt__, __le__, __gt__, __ge__ = _orders()

|     def __sub__(self, other):
|         if isinstance(other, timedelta):
|             return self + timedelta(-other.days)
|         if isinstance(other, date):
|             return timedelta(self.toordinal() - other.toordinal())
|         return NotImplemented

|     def weekday(self):
|         return (self.toordinal() + 6) % 7

|     def isocalendar(self):
|         year, n = (self._year, self.toordinal())
|         if n < _first_monday(year):
|             year -= 1
|         elif n >= _first_monday(year + 1):
|             year += 1
|         week, day = divmod(n - _first_monday(year), 7)
|         return _WeekDate(year, week + 1, day + 1)
| _finish(date, 'year month day')
| date.min, date.max, date.resolution = (date(1, 1, 1), date(9999, 12, 31), timedelta(1))
| _date = date

| class tzinfo:
|     __slots__ = ()

| class IsoCalendarDate(tuple):

|     def __new__(cls, year, week, weekday, /):
|         return super().__new__(cls, (year, week, weekday))
|     year = property(lambda self: self[0])
|     week = property(lambda self: self[1])
|     weekday = property(lambda self: self[2])

|     def __repr__(self):
|         return 'datetime.IsoCalendarDate(year=%d, week=%d, weekday=%d)' % tuple(self)
| _WeekDate = IsoCalendarDate
| del IsoCalendarDate

| class _Zoned:
|     __slots__ = ()

|     def utcoffset(self):
|         return self._tzinfo and _offset_checked('utcoffset',
|             self._tzinfo.utcoffset(self._when()))

|     def dst(self):
|         return self._tzinfo and _offset_checked('dst', self._tzinfo.dst(self._when()))

|     def _clock(self):
|         return (self._hour, self._minute, self._second, self._microsecond)

| class time(_Zoned):
|     __slots__ = ('_hour', '_minute', '_second', '_microsecond', '_tzinfo', '_fold')
|     _least = 2

|     def __new__(cls, hour=0, minute=0, second=0, microsecond=0, tzinfo=None, *, fold=0):
|         return _set_time(object.__new__(cls), hour, minute, second, microsecond, tzinfo, fold)
|     _parts = _Zoned._clock
|     __eq__, __lt__, __le__, __gt__, __ge__ = _orders()
|     __format__ = date.__format__
| _finish(time, 'hour minute second microsecond tzinfo fold')
| time.min, time.max = (time(0, 0, 0), time(23, 59, 59, 999999))
| time.resolution = timedelta(microseconds=1)

| class datetime(_Zoned, date):
|     __slots__ = time.__slots__
|     _least = 5

|     def __new__(cls, year=None, month=None, day=None, hour=0, minute=0, second=0, microsecond=0,
|         tzinfo=None, *, fold=0):
|         self = object.__new__(cls)
|         self._year, self._month, self._day = _date_checked(year, month, day)
|         return _set_time(self, hour, minute, second, microsecond, tzinfo, fold)

|     def _when(self):
|         return self

|     def _parts(self):
|         return date._parts(self) + self._clock()

|     def timetuple(self):
|         summer = self.dst()
|         return _struct(*self._parts()[:6], -1 if summer is None else int(bool(summer)))

|     def time(self):
|         return time(*self._clock(), fold=self._fold)

|     def replace(self, year=None, month=None, day=None, hour=None, minute=None, second=None,
|         microsecond=None, tzinfo=True, *, fold=None):
|         values = [old if new is None else new for new, old in zip((year, month, day, hour,
|             minute, second, microsecond), self._parts())]
|         return type(self)(*values, self._tzinfo if tzinfo is True else tzinfo, fold=self._fold
|             if fold is None else fold)

|     def astimezone(self, tz=None):
|         if tz is None:
|             tz = self._local_zone()
|         _zone_checked(tz)
|         own = self._tzinfo
|         offset = own and own.utcoffset(self)
|         if offset is None:
|             own = self.replace(tzinfo=None)._local_zone()
|             offset = own.utcoffset(self)
|         return self if tz is own else tz.fromutc((self - offset).replace(tzinfo=tz))

|     def isoformat(self, sep='T', timespec='auto'):
|         return date.isoformat(self) + '%c' % sep + _clock_text(*self._clock(),
|             timespec) + _offset_text(self.utcoffset())

|     def __str__(self):
|         return self.isoformat(' ')

|     @classmethod
|     def strptime(cls, date_string, format):
|         for i, v in enumerate((date_string, format)):
|             if not isinstance(v, str):
|                 raise TypeError('strptime() argument %d must be str, not %s' % (i + 1,
|                     _title(v)))
|         return __import__('_strptime')._strptime_datetime(cls, date_string, format)
|     __eq__, __lt__, __le__, __gt__, __ge__ = _orders()

|     def _since(self):
|         return timedelta(self.toordinal(), self._second, self._microsecond, 0, self._minute,
|             self._hour)

|     def __add__(self, other):
|         if not isinstance(other, timedelta):
|             return NotImplemented
|         at = self._since() + other
|         if not 0 < at._days <= _LAST:
|             raise OverflowError('date value out of range')
|         mm, ss = divmod(at._seconds, 60)
|         return type(self)(*_date_of(at._days), mm // 60, mm % 60, ss, at._microseconds,
|             self._tzinfo)
|     __radd__ = __add__

|     def __sub__(self, other):
|         if isinstance(other, timedelta):
|             return self + -other
|         if not isinstance(other, datetime):
|             return NotImplemented
|         base = self._since() - other._since()
|         if self._tzinfo is other._tzinfo:
|             return base
|         a, b = (self.utcoffset(), other.utcoffset())
|         if a == b:
|             return base
|         if a is None or b is None:
|             raise TypeError("can't subtract offset-naive and offset-aware datetimes")
|         return base + b - a
| _finish(datetime, 'hour minute second microsecond tzinfo fold')
| datetime.min, datetime.max = (datetime(1, 1, 1), datetime(9999, 12, 31, 23, 59, 59, 999999))
| datetime.resolution = timedelta(microseconds=1)

| class timezone(tzinfo):
|     __slots__ = ('_offset', '_name')

|     def __new__(cls, offset, name=_finish):
|         if not isinstance(offset, timedelta):
|             raise TypeError('timezone() argument 1 must be datetime.timedelta, not %s'
|                 % _title(offset))
|         if name is _finish:
|             if not offset:
|                 return cls.utc
|             name = None
|         elif not isinstance(name, str):
|             raise TypeError('timezone() argument 2 must be str, not %s' % _title(name))
|         return cls._made(_offset_checked('utcoffset', offset), name)

|     @classmethod
|     def _made(cls, offset, name=None):
|         self = tzinfo.__new__(cls)
|         self._offset, self._name = (offset, name)
|         return self

|     def _of(self, dt, name, value):
|         if not isinstance(dt, datetime) and dt is not None:
|             raise TypeError('%s(dt) argument must be a datetime instance or None, not %s'
|                 % (name, _title(dt)))
|         return value

|     def utcoffset(self, dt):
|         return self._of(dt, 'utcoffset', self._offset)

|     def dst(self, dt):
|         return self._of(dt, 'dst', None)

|     def fromutc(self, dt):
|         if not isinstance(dt, datetime):
|             raise TypeError('fromutc() argument must be a datetime instance or None')
|         if dt.tzinfo is not self:
|             raise ValueError("fromutc: dt.tzinfo is not self")
|         return dt + self._offset
| UTC = timezone.utc = timezone._made(timedelta(0))
| timezone.min = timezone._made(-timedelta(hours=23, minutes=59))
| timezone.max = timezone._made(timedelta(hours=23, minutes=59))
| _EPOCH = datetime(1970, 1, 1, tzinfo=timezone.utc)
| for _c in (tzinfo, _WeekDate, timezone):
|     _finish(_c)
"#

/-- The module for times read from texts. -/
def innerStrptimeText : String := r#"
| time = __import__('time')
| from re import compile as re_compile, IGNORECASE, escape as re_escape
| from datetime import date as _date, timedelta as _timedelta, timezone as _timezone
| _days = ('monday', 'tuesday', 'wednesday', 'thursday', 'friday', 'saturday', 'sunday')
| _months = ('january', 'february', 'march', 'april', 'may', 'june', 'july', 'august',
|     'september', 'october', 'november', 'december')
| _short_days = tuple((d[:3] for d in _days))
| _short_months = tuple((m[:3] for m in _months))
| _known = «»

| def _one_of(words, letter):
|     words = sorted(words, key=len, reverse=True)
|     return '(?P<%s>%s)' % (letter, '|'.join((re_escape(w)
|         for w in words))) if any(words) else ''

| def _zone_names():
|     return («'utc', 'gmt', time.tzname[0].lower()», «time.tzname[1].lower()»)

| def _patterns():
|     table = «'d': r'(?P<d>3[0-1]|[1-2]\d|0[1-9]|[1-9]| [1-9])', 'f': '(?P<f>[0-9]«1,6»)',
|         'H': '(?P<H>2[0-3]|[0-1]\\d|\\d)', 'I': r'(?P<I>1[0-2]|0[1-9]|[1-9])',
|         'G': '(?P<G>\\d\\d\\d\\d)', 'm': r'(?P<m>1[0-2]|0[1-9]|[1-9])',
|         'M': '(?P<M>[0-5]\\d|\\d)',
|         'j': r'(?P<j>36[0-6]|3[0-5]\d|[1-2]\d\d|0[1-9]\d|00[1-9]|[1-9]\d|0[1-9]|[1-9])',
|         'S': '(?P<S>6[0-1]|[0-5]\\d|\\d)', 'U': '(?P<U>5[0-3]|[0-4]\\d|\\d)',
|         'w': '(?P<w>[0-6])', 'u': '(?P<u>[1-7])', 'V': r'(?P<V>5[0-3]|0[1-9]|[1-4]\d|\d)',
|         'y': '(?P<y>\\d\\d)', 'Y': '(?P<Y>\\d\\d\\d\\d)',
|         'z': r'(?P<z>[+-]\d\d:?[0-5]\d(:?[0-5]\d(\.\d«1,6»)?)?|(?-i:Z))', 'A': _one_of(_days,
|         'A'), 'a': _one_of(_short_days, 'a'), 'B': _one_of(_months, 'B'),
|         'b': _one_of(_short_months, 'b'), 'p': _one_of(('am', 'pm'), 'p'), 'Z': _one_of([n
|         for names in _zone_names() for n in names], 'Z'), '%': '%'»
|     table['W'] = table['U'].replace('U', 'W')
|     table['c'] = _pattern('%a %b %d %H:%M:%S %Y', table)
|     table['x'] = _pattern('%m/%d/%y', table)
|     table['X'] = _pattern('%H:%M:%S', table)
|     return table

| def _pattern(format, table):
|     done = ''
|     format = re_compile('([\\\\.^$*+?\\(\\)«»\\[\\]|])').sub('\\\\\\1', format)
|     format = re_compile('\\s+').sub('\\\\s+', format)
|     while '%' in format:
|         i = format.index('%') + 1
|         done = '%s%s%s' % (done, format[:i - 1], table[format[i]])
|         format = format[i + 1:]
|     return done + format

| def _compiled(format):
|     key = (format, time.tzname)
|     if key not in _known:
|         try:
|             _known[key] = re_compile(_pattern(format, _patterns()), IGNORECASE)
|         except KeyError as err:
|             bad = err.args[0]
|             if bad == '\\':
|                 bad = '%'
|             raise ValueError("'%s' is a bad directive in format '%s'" % (bad, format)) from None
|         except IndexError:
|             raise ValueError("stray %% in format '%s'" % format) from None
|     return _known[key]

| def _strptime(data_string, format='%a %b %d %H:%M:%S %Y'):
|     for index, arg in enumerate([data_string, format]):
|         if not isinstance(arg, str):
|             raise TypeError('strptime() argument «» must be str, not «»'.format(index,
|                 type(arg)))
|     found = _compiled(format).match(data_string)
|     if not found:
|         raise ValueError('time data %r does not match format %r' % (data_string, format))
|     if len(data_string) != found.end():
|         raise ValueError('unconverted data remains: %s' % data_string[found.end():])
|     iso_year = year = None
|     month = day = 1
|     hour = minute = second = fraction = 0
|     summer = -1
|     offset = None
|     offset_fraction = 0
|     iso_week = week = from_monday = weekday = yearday = None
|     parts = found.groupdict()
|     for key, text in parts.items():
|         if key == 'y':
|             year = int(text)
|             year += 2000 if year <= 68 else 1900
|         elif key == 'Y':
|             year = int(text)
|         elif key == 'G':
|             iso_year = int(text)
|         elif key == 'm':
|             month = int(text)
|         elif key == 'B':
|             month = _months.index(text.lower()) + 1
|         elif key == 'b':
|             month = _short_months.index(text.lower()) + 1
|         elif key == 'd':
|             day = int(text)
|         elif key == 'H':
|             hour = int(text)
|         elif key == 'I':
|             hour = int(text)
|             half = (parts.get('p') or '').lower()
|             if half in ('', 'am'):
|                 if hour == 12:
|                     hour = 0
|             elif hour != 12:
|                 hour += 12
|         elif key == 'M':
|             minute = int(text)
|         elif key == 'S':
|             second = int(text)
|         elif key == 'f':
|             fraction = int(text + '0' * (6 - len(text)))
|         elif key == 'A':
|             weekday = _days.index(text.lower())
|         elif key == 'a':
|             weekday = _short_days.index(text.lower())
|         elif key == 'w':
|             weekday = (int(text) - 1) % 7
|         elif key == 'u':
|             weekday = int(text) - 1
|         elif key == 'j':
|             yearday = int(text)
|         elif key in ('U', 'W'):
|             week = int(text)
|             from_monday = key == 'W'
|         elif key == 'V':
|             iso_week = int(text)
|         elif key == 'z':
|             offset, offset_fraction = _offset_of(text)
|         elif key == 'Z':
|             name = text.lower()
|             for value, names in enumerate(_zone_names()):
|                 if name in names:
|                     if not (time.tzname[0] == time.tzname[1] and time.daylight
|                         and (name not in ('utc', 'gmt'))):
|                         summer = value
|                     break
|     if iso_year is not None:
|         if yearday is not None:
|             raise ValueError("Day of the year directive '%j' is not compatible with ISO year "
|     "directive '%G'. Use '%Y' instead.")
|         if iso_week is None or weekday is None:
|             raise ValueError("ISO year directive '%G' must be used with the ISO week directive "
|     "'%V' and a weekday directive ('%A', '%a', '%w', or '%u').")
|     elif iso_week is not None:
|         if year is None or weekday is None:
|             raise ValueError("ISO week directive '%V' must be used with the ISO year directive "
|     "'%G' and a weekday directive ('%A', '%a', '%w', or '%u').")
|         raise ValueError("ISO week directive '%V' is incompatible with the year directive '%Y'. "
|    "Use the ISO year '%G' instead.")
|     leap = False
|     if year is None:
|         if month == 2 and day == 29:
|             year = 1904
|             leap = True
|         else:
|             year = 1900
|     if yearday is None and weekday is not None:
|         if week is not None:
|             yearday = _day_of_week(year, week, weekday, from_monday)
|         elif iso_year is not None and iso_week is not None:
|             d = _date.fromisocalendar(iso_year, iso_week, weekday + 1)
|             year, yearday = (d.year, d.timetuple().tm_yday)
|         if yearday is not None and yearday <= 0:
|             year -= 1
|             yearday += 366 if year % 4 == 0 and (year % 100 != 0 or year % 400 == 0) else 365
|     start = _date(year, 1, 1).toordinal()
|     if yearday is None:
|         yearday = _date(year, month, day).toordinal() - start + 1
|     else:
|         d = _date.fromordinal(yearday - 1 + start)
|         year, month, day = (d.year, d.month, d.day)
|     if weekday is None:
|         weekday = _date(year, month, day).weekday()
|     if leap:
|         year = 1900
|     return ((year, month, day, hour, minute, second, weekday, yearday, summer, parts.get('Z'),
|         offset), fraction, offset_fraction)

| def _strptime_datetime(cls, data_string, format='%a %b %d %H:%M:%S %Y'):
|     parts, fraction, offset_fraction = _strptime(data_string, format)
|     name, offset = parts[-2:]
|     args = parts[:6] + (fraction,)
|     if offset is not None:
|         delta = _timedelta(seconds=offset, microseconds=offset_fraction)
|         args += (_timezone(delta, name) if name else _timezone(delta),)
|     return cls(*args)
"#

def timeText : String := r#"
| from _moments import local as _local, seconds as _seconds, text as _text, zone as _zone
| from _clock import monotonic, monotonic_ns, perf_counter, perf_counter_ns, process_time
| from _clock import sleep
| from _clock import time, time_ns
| _record = __import__('_records').record
| _days = ('Mon', 'Tue', 'Wed', 'Thu', 'Fri', 'Sat', 'Sun')
| _months = ('Jan', 'Feb', 'Mar', 'Apr', 'May', 'Jun', 'Jul', 'Aug', 'Sep', 'Oct', 'Nov', 'Dec')

| class struct_time(_record('time.struct_time', ('tm_year', 'tm_mon', 'tm_mday', 'tm_hour',
|     'tm_min', 'tm_sec', 'tm_wday', 'tm_yday', 'tm_isdst'))):
|     n_fields, n_sequence_fields, n_unnamed_fields = (11, 9, 0)
|     tm_zone = None
|     tm_gmtoff = None

|     def __new__(cls, sequence, dict=None):
|         try:
|             values = tuple(sequence)
|         except TypeError:
|             raise TypeError('constructor requires a sequence') from None
|         if len(values) < 9:
|             raise TypeError('time.struct_time() takes an at least 9-sequence (%d-sequence given)' % len(values))
|         if len(values) > 11:
|             raise TypeError('time.struct_time() takes an at most 11-sequence (%d-sequence given)' % len(values))
|         self = tuple.__new__(cls, values[:9])
|         if len(values) > 9:
|             self.tm_zone = values[9]
|         if len(values) > 10:
|             self.tm_gmtoff = values[10]
|         return self
| struct_time.__module__ = 'time'
| setattr(struct_time, '.title', 'time.struct_time')

| def tzset():
|     global _setting, tzname, timezone, altzone, daylight
|     environ = __import__('os').environ
|     _setting = environ.get('TZ', '')
|     found = _zone(_setting)
|     timezone = -found[1]
|     if len(found) == 2:
|         tzname = (found[0], found[0])
|         altzone = timezone
|         daylight = 0
|     else:
|         tzname = (found[0], found[2])
|         altzone = -found[3]
|         daylight = 1

| def localtime(seconds=None, /):
|     return struct_time(_local(_whole(seconds), _setting))

| def _fields(t, name):
|     if not isinstance(t, tuple):
|         raise TypeError('Tuple or struct_time argument required')
|     if len(t) != 9:
|         raise TypeError('%s(): illegal time tuple argument' % name)
|     for v in t:
|         if not isinstance(v, int):
|             raise TypeError("'%s' object cannot be interpreted as an integer"
|                 % type(v).__name__)
|     return tuple(t)

| def _checked(t, name):
|     year, month, day, hour, minute, second, weekday, yearday, summer = _fields(t, name)
|     month = month or 1
|     day = day or 1
|     yearday = yearday or 1
|     if not 1 <= month <= 12:
|         raise ValueError('month out of range')
|     if not 1 <= day <= 31:
|         raise ValueError('day of month out of range')
|     if not 0 <= hour <= 23:
|         raise ValueError('hour out of range')
|     if not 0 <= minute <= 59:
|         raise ValueError('minute out of range')
|     if not 0 <= second <= 61:
|         raise ValueError('seconds out of range')
|     if weekday < -1:
|         raise ValueError('day of week out of range')
|     if not 1 <= yearday <= 366:
|         raise ValueError('day of year out of range')
|     return (year, month, day, hour, minute, second, weekday % 7, yearday, summer)

| def strftime(format, t=None, /):
|     if not isinstance(format, str):
|         raise TypeError('strftime() argument 1 must be str, not %s' % type(format).__name__)
|     if t is None:
|         t = localtime()
|     values = _checked(t, 'strftime')
|     zone, offset = (getattr(t, 'tm_zone', None), getattr(t, 'tm_gmtoff', None))
|     if zone is None:
|         summer = values[8] > 0 and daylight
|         zone = tzname[1 if summer else 0]
|         offset = -(altzone if summer else timezone)
|     return _text(format, values[:8] + (zone, offset or 0))
| tzset()
"#

/-- The module for languages and places. -/
def localeText : String := r#"
| _text = str
| LC_CTYPE, LC_NUMERIC, LC_TIME, LC_COLLATE, LC_MONETARY, LC_MESSAGES, LC_ALL = range(7)
| _names = ('LC_CTYPE', 'LC_NUMERIC', 'LC_TIME', 'LC_COLLATE', 'LC_MONETARY', 'LC_MESSAGES')
| _set = dict.fromkeys(range(6), 'C')
| _set[0] = 'C.UTF-8'
| _known = «'': None, 'C': 'C', 'POSIX': 'C', 'C.UTF-8': 'C.UTF-8', 'C.utf8': 'C.utf8'»

| class Error(Exception):
|     pass
| Error.__module__ = 'locale'
"#

end Flowboard.Script.Prelude
