/-
The time zones of places.

The history of a place is a list of eras.  Each gives how far standard time is from universal time,
the rule set of summer time, or what is added to standard time, or a dash for nothing, how the clock
is named, and until when the era lasts.  In the name `%s` stands for the letters of the rule in
force; of two names divided by a slash the second is that in summer time.
-/
namespace Trellis.Locale.Zone

/-- The places, with their eras between semicolons. -/
def eraTable : List (String × String) := [
  ("Africa/Abidjan", "-0:16:8 - LMT 1912; 0 - GMT"),
  ("Africa/Accra", "-0:0:52 - LMT 1915 Nov 2; 0 GH %s 1942 Feb 8; 0:30 - +0030 1946 Jan 6; 0 GH
    %s"),
  ("Africa/Addis_Ababa", "2:34:48 - LMT 1870; 2:35:20 - ADMT 1936 May 5; 3 - EAT"),
  ("Africa/Algiers", "0:12:12 - LMT 1891 Mar 16; 0:9:21 - PMT 1911 Mar 11; 0 d WE%sT 1940 Feb 25 2;
    1 d CE%sT 1946 Oct 7; 0 - WET 1956 Jan 29; 1 - CET 1963 Apr 14; 0 d WE%sT 1977 Oct 21; 1 d CE%sT
    1979 Oct 26; 0 d WE%sT 1981 May; 1 - CET"),
  ("Africa/Asmara", "2:35:32 - LMT 1870; 2:35:32 - AMT 1890; 2:35:20 - ADMT 1936 May 5; 3 - EAT"),
  ("Africa/Bamako", "-0:32 - LMT 1912; 0 - GMT 1934 Feb 26; -1 - -01 1960 Jun 20; 0 - GMT"),
  ("Africa/Bangui", "1:14:20 - LMT 1912; 1 - WAT"),
  ("Africa/Banjul", "-1:6:36 - LMT 1912; -1:6:36 - BMT 1933 Apr; -1 - -01 1942 Feb; 0 - GMT"),
  ("Africa/Bissau", "-1:2:20 - LMT 1912 Jan 1 1u; -1 - -01 1975; 0 - GMT"),
  ("Africa/Blantyre", "2:20 - LMT 1911 Jul 24; 2:21:10 - ZMT 1914 Jun 30; 2:21 - ZMT 1925 Jul; 2 -
    CAT"),
  ("Africa/Brazzaville", "1:1:8 - LMT 1912; 1 - WAT"),
  ("Africa/Bujumbura", "1:57:28 - LMT 1890; 2 - CAT"),
  ("Africa/Cairo", "2:5:9 - LMT 1900 Oct; 2 K EE%sT"),
  ("Africa/Casablanca", "-0:30:20 - LMT 1913 Oct 26; 0 M +00/+01 1984 Mar 16; 1 - +01 1986; 0 M
    +00/+01 2018 Oct 28 3; 0 M +00/+01"),
  ("Africa/Ceuta", "-0:21:16 - LMT 1901 Jan 1 0u; 0 - WET 1918 May 6 23; 0 1 WEST 1918 Oct 7 23; 0 -
    WET 1924; 0 s WE%sT 1929; 0 - WET 1967; 0 Sp WE%sT 1984 Mar 16; 1 - CET 1986; 1 E CE%sT"),
  ("Africa/Conakry", "-0:54:52 - LMT 1912; 0 - GMT 1934 Feb 26; -1 - -01 1960; 0 - GMT"),
  ("Africa/Dakar", "-1:9:44 - LMT 1912; -1 - -01 1941 Jun; 0 - GMT"),
  ("Africa/Dar_es_Salaam", "2:37:8 - LMT 1931; 3 - EAT 1948; 2:45 - +0245 1961; 3 - EAT"),
  ("Africa/Djibouti", "2:52:36 - LMT 1911 Jul; 3 - EAT"),
  ("Africa/Douala", "0:38:48 - LMT 1912; 1 - WAT"),
  ("Africa/El_Aaiun", "-0:52:48 - LMT 1934; -1 - -01 1976 Apr 14; 0 M +00/+01 2018 Oct 28 3; 0 M
    +00/+01"),
  ("Africa/Freetown", "-0:53 - LMT 1882; -0:53 - FMT 1913 Jul; -1 SL %s 1939 Sep 5; -1 - -01 1941
    Dec 6 24; 0 - GMT"),
  ("Africa/Gaborone", "1:43:40 - LMT 1885; 1:30 - SAST 1903 Mar; 2 - CAT 1943 Sep 19 2; 2 1 CAST
    1944 Mar 19 2; 2 - CAT"),
  ("Africa/Harare", "2:4:12 - LMT 1903 Mar; 2 - CAT"),
  ("Africa/Johannesburg", "1:52 - LMT 1892 Feb 8; 1:30 - SAST 1903 Mar; 2 SA SAST"),
  ("Africa/Juba", "2:6:28 - LMT 1931; 2 SD CA%sT 2000 Jan 15 12; 3 - EAT 2021 Feb; 2 - CAT"),
  ("Africa/Kampala", "2:9:40 - LMT 1928 Jul; 3 - EAT 1930; 2:30 - +0230 1948; 2:45 - +0245 1957; 3 -
    EAT"),
  ("Africa/Khartoum", "2:10:8 - LMT 1931; 2 SD CA%sT 2000 Jan 15 12; 3 - EAT 2017 Nov; 2 - CAT"),
  ("Africa/Kigali", "2:0:16 - LMT 1935 Jun; 2 - CAT"),
  ("Africa/Kinshasa", "1:1:12 - LMT 1897 Nov 9; 1 - WAT"),
  ("Africa/Lagos", "0:13:35 - LMT 1905 Jul; 0 - GMT 1908 Jul; 0:13:35 - LMT 1914; 0:30 - +0030 1919
    Sep; 1 - WAT"),
  ("Africa/Libreville", "0:37:48 - LMT 1912; 1 - WAT"),
  ("Africa/Lome", "0:4:52 - LMT 1893; 0 - GMT"),
  ("Africa/Luanda", "0:52:56 - LMT 1892; 0:52:4 - LMT 1911 Dec 31 23u; 1 - WAT"),
  ("Africa/Lubumbashi", "1:49:52 - LMT 1897 Nov 9; 1 - WAT 1920 Apr 25; 2 - CAT"),
  ("Africa/Lusaka", "1:53:8 - LMT 1903 Mar; 2 - CAT"),
  ("Africa/Malabo", "0:35:8 - LMT 1912; 0 - GMT 1963 Dec 15; 1 - WAT"),
  ("Africa/Maputo", "2:10:18 - LMT 1909; 2 - CAT"),
  ("Africa/Maseru", "1:50 - LMT 1903 Mar; 2 - SAST 1943 Sep 19 2; 2 1 SAST 1944 Mar 19 2; 2 -
    SAST"),
  ("Africa/Mbabane", "2:4:24 - LMT 1903 Mar; 2 - SAST"),
  ("Africa/Mogadishu", "3:1:28 - LMT 1893 Nov; 3 - EAT 1931; 2:30 - +0230 1957; 3 - EAT"),
  ("Africa/Monrovia", "-0:43:8 - LMT 1882; -0:43:8 - MMT 1919 Mar; -0:44:30 - MMT 1972 Jan 7; 0 -
    GMT"),
  ("Africa/Nairobi", "2:27:16 - LMT 1908 May; 2:30 - +0230 1928 Jun 30 24; 3 - EAT 1930 Jan 4 24;
    2:30 - +0230 1936 Dec 31 24; 2:45 - +0245 1942 Jul 31 24; 3 - EAT"),
  ("Africa/Ndjamena", "1:0:12 - LMT 1912; 1 - WAT 1979 Oct 14; 1 1 WAST 1980 Mar 8; 1 - WAT"),
  ("Africa/Niamey", "0:8:28 - LMT 1912; -1 - -01 1934 Feb 26; 0 - GMT 1960; 1 - WAT"),
  ("Africa/Nouakchott", "-1:3:48 - LMT 1912; 0 - GMT 1934 Feb 26; -1 - -01 1960 Nov 28; 0 - GMT"),
  ("Africa/Ouagadougou", "-0:6:4 - LMT 1912; 0 - GMT"),
  ("Africa/Porto-Novo", "0:10:28 - LMT 1912; 0 - GMT 1934 Feb 26; 1 - WAT"),
  ("Africa/Sao_Tome", "0:26:56 - LMT 1884; -0:36:45 - LMT 1912 Jan 1 0u; 0 - GMT 2018 Jan 1 1; 1 -
    WAT 2019 Jan 1 2; 0 - GMT"),
  ("Africa/Tripoli", "0:52:44 - LMT 1920; 1 L CE%sT 1959; 2 - EET 1982; 1 L CE%sT 1990 May 4; 2 -
    EET 1996 Sep 30; 1 L CE%sT 1997 Oct 4; 2 - EET 2012 Nov 10 2; 1 L CE%sT 2013 Oct 25 2; 2 -
    EET"),
  ("Africa/Tunis", "0:40:44 - LMT 1881 May 12; 0:9:21 - PMT 1911 Mar 11; 1 n CE%sT"),
  ("Africa/Windhoek", "1:8:24 - LMT 1892 Feb 8; 1:30 - +0130 1903 Mar; 2 - SAST 1942 Sep 20 2; 2 1
    SAST 1943 Mar 21 2; 2 - SAST 1990 Mar 21; 2 - CAT 1994 Mar 21; 1 NA %s 2017 Oct 24; 2 - CAT"),
  ("America/Adak", "12:13:22 - LMT 1867 Oct 19 12:44:35; -11:46:38 - LMT 1900 Aug 20 12; -11 - NST
    1942; -11 u N%sT 1946; -11 - NST 1967 Apr; -11 - BST 1969; -11 u B%sT 1983 Oct 30 2; -10 u AH%sT
    1983 Nov 30; -10 u H%sT"),
  ("America/Anchorage", "14:0:24 - LMT 1867 Oct 19 14:31:37; -9:59:36 - LMT 1900 Aug 20 12; -10 -
    AST 1942; -10 u A%sT 1967 Apr; -10 - AHST 1969; -10 u AH%sT 1983 Oct 30 2; -9 u Y%sT 1983 Nov
    30; -9 u AK%sT"),
  ("America/Anguilla", "-4:12:16 - LMT 1912 Mar 2; -4 - AST"),
  ("America/Antigua", "-4:7:12 - LMT 1912 Mar 2; -5 - EST 1951; -4 - AST"),
  ("America/Araguaina", "-3:12:48 - LMT 1914; -3 B -03/-02 1990 Sep 17; -3 - -03 1995 Sep 14; -3 B
    -03/-02 2003 Sep 24; -3 - -03 2012 Oct 21; -3 B -03/-02 2013 Sep; -3 - -03"),
  ("America/Argentina/Buenos_Aires", "-3:53:48 - LMT 1894 Oct 31; -4:16:48 - CMT 1920 May; -4 - -04
    1930 Dec; -4 A -04/-03 1969 Oct 5; -3 A -03/-02 1999 Oct 3; -4 A -04/-03 2000 Mar 3; -3 A
    -03/-02"),
  ("America/Argentina/Catamarca", "-4:23:8 - LMT 1894 Oct 31; -4:16:48 - CMT 1920 May; -4 - -04 1930
    Dec; -4 A -04/-03 1969 Oct 5; -3 A -03/-02 1991 Mar 3; -4 - -04 1991 Oct 20; -3 A -03/-02 1999
    Oct 3; -4 A -04/-03 2000 Mar 3; -3 - -03 2004 Jun; -4 - -04 2004 Jun 20; -3 A -03/-02 2008 Oct
    18; -3 - -03"),
  ("America/Argentina/Cordoba", "-4:16:48 - LMT 1894 Oct 31; -4:16:48 - CMT 1920 May; -4 - -04 1930
    Dec; -4 A -04/-03 1969 Oct 5; -3 A -03/-02 1991 Mar 3; -4 - -04 1991 Oct 20; -3 A -03/-02 1999
    Oct 3; -4 A -04/-03 2000 Mar 3; -3 A -03/-02"),
  ("America/Argentina/Jujuy", "-4:21:12 - LMT 1894 Oct 31; -4:16:48 - CMT 1920 May; -4 - -04 1930
    Dec; -4 A -04/-03 1969 Oct 5; -3 A -03/-02 1990 Mar 4; -4 - -04 1990 Oct 28; -4 1 -03 1991 Mar
    17; -4 - -04 1991 Oct 6; -3 1 -02 1992; -3 A -03/-02 1999 Oct 3; -4 A -04/-03 2000 Mar 3; -3 A
    -03/-02 2008 Oct 18; -3 - -03"),
  ("America/Argentina/La_Rioja", "-4:27:24 - LMT 1894 Oct 31; -4:16:48 - CMT 1920 May; -4 - -04 1930
    Dec; -4 A -04/-03 1969 Oct 5; -3 A -03/-02 1991 Mar; -4 - -04 1991 May 7; -3 A -03/-02 1999 Oct
    3; -4 A -04/-03 2000 Mar 3; -3 - -03 2004 Jun; -4 - -04 2004 Jun 20; -3 A -03/-02 2008 Oct 18;
    -3 - -03"),
  ("America/Argentina/Mendoza", "-4:35:16 - LMT 1894 Oct 31; -4:16:48 - CMT 1920 May; -4 - -04 1930
    Dec; -4 A -04/-03 1969 Oct 5; -3 A -03/-02 1990 Mar 4; -4 - -04 1990 Oct 15; -4 1 -03 1991 Mar;
    -4 - -04 1991 Oct 15; -4 1 -03 1992 Mar; -4 - -04 1992 Oct 18; -3 A -03/-02 1999 Oct 3; -4 A
    -04/-03 2000 Mar 3; -3 - -03 2004 May 23; -4 - -04 2004 Sep 26; -3 A -03/-02 2008 Oct 18; -3 -
    -03"),
  ("America/Argentina/Rio_Gallegos", "-4:36:52 - LMT 1894 Oct 31; -4:16:48 - CMT 1920 May; -4 - -04
    1930 Dec; -4 A -04/-03 1969 Oct 5; -3 A -03/-02 1999 Oct 3; -4 A -04/-03 2000 Mar 3; -3 - -03
    2004 Jun; -4 - -04 2004 Jun 20; -3 A -03/-02 2008 Oct 18; -3 - -03"),
  ("America/Argentina/Salta", "-4:21:40 - LMT 1894 Oct 31; -4:16:48 - CMT 1920 May; -4 - -04 1930
    Dec; -4 A -04/-03 1969 Oct 5; -3 A -03/-02 1991 Mar 3; -4 - -04 1991 Oct 20; -3 A -03/-02 1999
    Oct 3; -4 A -04/-03 2000 Mar 3; -3 A -03/-02 2008 Oct 18; -3 - -03"),
  ("America/Argentina/San_Juan", "-4:34:4 - LMT 1894 Oct 31; -4:16:48 - CMT 1920 May; -4 - -04 1930
    Dec; -4 A -04/-03 1969 Oct 5; -3 A -03/-02 1991 Mar; -4 - -04 1991 May 7; -3 A -03/-02 1999 Oct
    3; -4 A -04/-03 2000 Mar 3; -3 - -03 2004 May 31; -4 - -04 2004 Jul 25; -3 A -03/-02 2008 Oct
    18; -3 - -03"),
  ("America/Argentina/San_Luis", "-4:25:24 - LMT 1894 Oct 31; -4:16:48 - CMT 1920 May; -4 - -04 1930
    Dec; -4 A -04/-03 1969 Oct 5; -3 A -03/-02 1990; -3 1 -02 1990 Mar 14; -4 - -04 1990 Oct 15; -4
    1 -03 1991 Mar; -4 - -04 1991 Jun; -3 - -03 1999 Oct 3; -4 1 -03 2000 Mar 3; -3 - -03 2004 May
    31; -4 - -04 2004 Jul 25; -3 A -03/-02 2008 Jan 21; -4 Sa -04/-03 2009 Oct 11; -3 - -03"),
  ("America/Argentina/Tucuman", "-4:20:52 - LMT 1894 Oct 31; -4:16:48 - CMT 1920 May; -4 - -04 1930
    Dec; -4 A -04/-03 1969 Oct 5; -3 A -03/-02 1991 Mar 3; -4 - -04 1991 Oct 20; -3 A -03/-02 1999
    Oct 3; -4 A -04/-03 2000 Mar 3; -3 - -03 2004 Jun; -4 - -04 2004 Jun 13; -3 A -03/-02"),
  ("America/Argentina/Ushuaia", "-4:33:12 - LMT 1894 Oct 31; -4:16:48 - CMT 1920 May; -4 - -04 1930
    Dec; -4 A -04/-03 1969 Oct 5; -3 A -03/-02 1999 Oct 3; -4 A -04/-03 2000 Mar 3; -3 - -03 2004
    May 30; -4 - -04 2004 Jun 20; -3 A -03/-02 2008 Oct 18; -3 - -03"),
  ("America/Aruba", "-4:40:24 - LMT 1912 Feb 12; -4:30 - -0430 1965; -4 - AST"),
  ("America/Asuncion", "-3:50:40 - LMT 1890; -3:50:40 - AMT 1931 Oct 10; -4 - -04 1972 Oct; -3 - -03
    1974 Apr; -4 y -04/-03 2024 Oct 15; -3 - -03"),
  ("America/Atikokan", "-6:6:28 - LMT 1895; -6 C C%sT 1940 Sep 29; -6 1 CDT 1942 Feb 9 2s; -6 C C%sT
    1945 Sep 30 2; -5 - EST"),
  ("America/Bahia", "-2:34:4 - LMT 1914; -3 B -03/-02 2003 Sep 24; -3 - -03 2011 Oct 16; -3 B
    -03/-02 2012 Oct 21; -3 - -03"),
  ("America/Bahia_Banderas", "-7:1 - LMT 1922 Jan 1 7u; -7 - MST 1927 Jun 10; -6 - CST 1930 Nov 15;
    -7 m M%sT 1932 Apr; -6 - CST 1942 Apr 24; -7 - MST 1970; -7 m M%sT 2010 Apr 4 2; -6 m C%sT"),
  ("America/Barbados", "-3:58:29 - LMT 1911 Aug 28; -4 BB A%sT 1944; -4 BB AST/-0330 1945; -4 BB
    A%sT"),
  ("America/Belem", "-3:13:56 - LMT 1914; -3 B -03/-02 1988 Sep 12; -3 - -03"),
  ("America/Belize", "-5:52:48 - LMT 1912 Apr; -6 BZ %s"),
  ("America/Blanc-Sablon", "-3:48:28 - LMT 1884; -4 C A%sT 1970; -4 - AST"),
  ("America/Boa_Vista", "-4:2:40 - LMT 1914; -4 B -04/-03 1988 Sep 12; -4 - -04 1999 Sep 30; -4 B
    -04/-03 2000 Oct 15; -4 - -04"),
  ("America/Bogota", "-4:56:16 - LMT 1884 Mar 13; -4:56:16 - BMT 1914 Nov 23; -5 CO -05/-04"),
  ("America/Boise", "-7:44:49 - LMT 1883 Nov 18 20u; -8 u P%sT 1923 May 13 2; -7 u M%sT 1974; -7 -
    MST 1974 Feb 3 2; -7 u M%sT"),
  ("America/Cambridge_Bay", "0 - -00 1920; -7 Y M%sT 1999 Oct 31 2; -6 C C%sT 2000 Oct 29 2; -5 -
    EST 2000 Nov 5; -6 - CST 2001 Apr 1 3; -7 C M%sT"),
  ("America/Campo_Grande", "-3:38:28 - LMT 1914; -4 B -04/-03"),
  ("America/Cancun", "-5:47:4 - LMT 1922 Jan 1 6u; -6 - CST 1981 Dec 26 2; -5 - EST 1983 Jan 4; -6 m
    C%sT 1997 Oct 26 2; -5 m E%sT 1998 Aug 2 2; -6 m C%sT 2015 Feb 1 2; -5 - EST"),
  ("America/Caracas", "-4:27:44 - LMT 1890; -4:27:40 - CMT 1912 Feb 12; -4:30 - -0430 1965; -4 - -04
    2007 Dec 9 3; -4:30 - -0430 2016 May 1 2:30; -4 - -04"),
  ("America/Cayenne", "-3:29:20 - LMT 1911 Jul; -4 - -04 1967 Oct; -3 - -03"),
  ("America/Cayman", "-5:25:32 - LMT 1890; -5:7:10 - KMT 1912 Feb; -5 - EST"),
  ("America/Chicago", "-5:50:36 - LMT 1883 Nov 18 18u; -6 u C%sT 1920; -6 Ch C%sT 1936 Mar 1 2; -5 -
    EST 1936 Nov 15 2; -6 Ch C%sT 1942; -6 u C%sT 1946; -6 Ch C%sT 1967; -6 u C%sT"),
  ("America/Chihuahua", "-7:4:20 - LMT 1922 Jan 1 7u; -7 - MST 1927 Jun 10; -6 - CST 1930 Nov 15; -7
    m M%sT 1932 Apr; -6 - CST 1996; -6 m C%sT 1998; -6 - CST 1998 Apr Sun>=1 3; -7 m M%sT 2022 Oct
    30 2; -6 - CST"),
  ("America/Ciudad_Juarez", "-7:5:56 - LMT 1922 Jan 1 7u; -7 - MST 1927 Jun 10; -6 - CST 1930 Nov
    15; -7 m M%sT 1932 Apr; -6 - CST 1996; -6 m C%sT 1998; -6 - CST 1998 Apr Sun>=1 3; -7 m M%sT
    2010; -7 u M%sT 2022 Oct 30 2; -6 - CST 2022 Nov 30; -7 u M%sT"),
  ("America/Costa_Rica", "-5:36:13 - LMT 1890; -5:36:13 - SJMT 1921 Jan 15; -6 CR C%sT"),
  ("America/Coyhaique", "-4:48:16 - LMT 1890; -4:42:45 - SMT 1910 Jan 10; -5 - -05 1916 Jul;
    -4:42:45 - SMT 1918 Sep 10; -4 - -04 1919 Jul; -4:42:45 - SMT 1927 Sep; -5 x -05/-04 1932 Sep;
    -4 - -04 1942 Jun; -5 - -05 1942 Aug; -4 - -04 1946 Aug 28 24; -5 1 -04 1947 Mar 31 24; -5 - -05
    1947 May 21 23; -4 x -04/-03 2025 Mar 20; -3 - -03"),
  ("America/Creston", "-7:46:4 - LMT 1884; -7 - MST 1916 Oct; -8 - PST 1918 Jun 2; -7 - MST"),
  ("America/Cuiaba", "-3:44:20 - LMT 1914; -4 B -04/-03 2003 Sep 24; -4 - -04 2004 Oct; -4 B
    -04/-03"),
  ("America/Curacao", "-4:35:47 - LMT 1912 Feb 12; -4:30 - -0430 1965; -4 - AST"),
  ("America/Danmarkshavn", "-1:14:40 - LMT 1916 Jul 28; -3 - -03 1980 Apr 6 2; -3 E -03/-02 1996; 0
    - GMT"),
  ("America/Dawson", "-9:17:40 - LMT 1900 Aug 20; -9 Y Y%sT 1965; -9 Yu Y%sT 1973 Oct 28; -8 - PST
    1980; -8 C P%sT 2020 Nov; -7 - MST"),
  ("America/Dawson_Creek", "-8:0:56 - LMT 1884; -8 C P%sT 1947; -8 Va P%sT 1972 Aug 30 2; -7 -
    MST"),
  ("America/Denver", "-6:59:56 - LMT 1883 Nov 18 19u; -7 u M%sT 1920; -7 De M%sT 1942; -7 u M%sT
    1946; -7 De M%sT 1967; -7 u M%sT"),
  ("America/Detroit", "-5:32:11 - LMT 1905; -6 - CST 1915 May 15 2; -5 - EST 1942; -5 u E%sT 1946;
    -5 Dt E%sT 1967 Jun 14 0:1; -5 u E%sT 1969; -5 - EST 1973; -5 u E%sT 1975; -5 - EST 1975 Apr 27
    2; -5 u E%sT"),
  ("America/Dominica", "-4:5:36 - LMT 1911 Jul 1 0:1; -4 - AST"),
  ("America/Edmonton", "-7:33:52 - LMT 1906 Sep; -7 Ed M%sT 1987; -7 C M%sT"),
  ("America/Eirunepe", "-4:39:28 - LMT 1914; -5 B -05/-04 1988 Sep 12; -5 - -05 1993 Sep 28; -5 B
    -05/-04 1994 Sep 22; -5 - -05 2008 Jun 24; -4 - -04 2013 Nov 10; -5 - -05"),
  ("America/El_Salvador", "-5:56:48 - LMT 1921; -6 SV C%sT"),
  ("America/Fort_Nelson", "-8:10:47 - LMT 1884; -8 Va P%sT 1946; -8 - PST 1947; -8 Va P%sT 1987; -8
    C P%sT 2015 Mar 8 2; -7 - MST"),
  ("America/Fortaleza", "-2:34 - LMT 1914; -3 B -03/-02 1990 Sep 17; -3 - -03 1999 Sep 30; -3 B
    -03/-02 2000 Oct 22; -3 - -03 2001 Sep 13; -3 B -03/-02 2002 Oct; -3 - -03"),
  ("America/Glace_Bay", "-3:59:48 - LMT 1902 Jun 15; -4 C A%sT 1953; -4 H A%sT 1954; -4 - AST 1972;
    -4 H A%sT 1974; -4 C A%sT"),
  ("America/Goose_Bay", "-4:1:40 - LMT 1884; -3:30:52 - NST 1918; -3:30:52 C N%sT 1919; -3:30:52 -
    NST 1935 Mar 30; -3:30 - NST 1936; -3:30 j N%sT 1942 May 11; -3:30 C N%sT 1946; -3:30 j N%sT
    1966 Mar 15 2; -4 j A%sT 2011 Nov; -4 C A%sT"),
  ("America/Grand_Turk", "-4:44:32 - LMT 1890; -5:7:10 - KMT 1912 Feb; -5 - EST 1979; -5 u E%sT 2015
    Mar 8 2; -4 - AST 2018 Mar 11 3; -5 u E%sT"),
  ("America/Grenada", "-4:7 - LMT 1911 Jul; -4 - AST"),
  ("America/Guadeloupe", "-4:6:8 - LMT 1911 Jun 8; -4 - AST"),
  ("America/Guatemala", "-6:2:4 - LMT 1918 Oct 5; -6 GT C%sT"),
  ("America/Guayaquil", "-5:19:20 - LMT 1890; -5:14 - QMT 1931; -5 EC -05/-04"),
  ("America/Guyana", "-3:52:39 - LMT 1911 Aug; -4 - -04 1915 Mar; -3:45 - -0345 1975 Aug; -3 - -03
    1992 Mar 29 1; -4 - -04"),
  ("America/Halifax", "-4:14:24 - LMT 1902 Jun 15; -4 H A%sT 1918; -4 C A%sT 1919; -4 H A%sT 1942
    Feb 9 2s; -4 C A%sT 1946; -4 H A%sT 1974; -4 C A%sT"),
  ("America/Havana", "-5:29:28 - LMT 1890; -5:29:36 - HMT 1925 Jul 19 12; -5 Q C%sT"),
  ("America/Hermosillo", "-7:23:52 - LMT 1922 Jan 1 7u; -7 - MST 1927 Jun 10; -6 - CST 1930 Nov 15;
    -7 m M%sT 1932 Apr; -6 - CST 1942 Apr 24; -7 - MST 1996; -7 m M%sT 1999; -7 - MST"),
  ("America/Indiana/Indianapolis", "-5:44:38 - LMT 1883 Nov 18 18u; -6 u C%sT 1920; -6 In C%sT 1942;
    -6 u C%sT 1946; -6 In C%sT 1955 Apr 24 2; -5 - EST 1957 Sep 29 2; -6 - CST 1958 Apr 27 2; -5 -
    EST 1969; -5 u E%sT 1971; -5 - EST 2006; -5 u E%sT"),
  ("America/Indiana/Knox", "-5:46:30 - LMT 1883 Nov 18 18u; -6 u C%sT 1947; -6 St C%sT 1962 Apr 29
    2; -5 - EST 1963 Oct 27 2; -6 u C%sT 1991 Oct 27 2; -5 - EST 2006 Apr 2 2; -6 u C%sT"),
  ("America/Indiana/Marengo", "-5:45:23 - LMT 1883 Nov 18 18u; -6 u C%sT 1951; -6 Ma C%sT 1961 Apr
    30 2; -5 - EST 1969; -5 u E%sT 1974 Jan 6 2; -6 1 CDT 1974 Oct 27 2; -5 u E%sT 1976; -5 - EST
    2006; -5 u E%sT"),
  ("America/Indiana/Petersburg", "-5:49:7 - LMT 1883 Nov 18 18u; -6 u C%sT 1955; -6 Pi C%sT 1965 Apr
    25 2; -5 - EST 1966 Oct 30 2; -6 u C%sT 1977 Oct 30 2; -5 - EST 2006 Apr 2 2; -6 u C%sT 2007 Nov
    4 2; -5 u E%sT"),
  ("America/Indiana/Tell_City", "-5:47:3 - LMT 1883 Nov 18 18u; -6 u C%sT 1946; -6 Pe C%sT 1964 Apr
    26 2; -5 - EST 1967 Oct 29 2; -6 u C%sT 1969 Apr 27 2; -5 u E%sT 1971; -5 - EST 2006 Apr 2 2; -6
    u C%sT"),
  ("America/Indiana/Vevay", "-5:40:16 - LMT 1883 Nov 18 18u; -6 u C%sT 1954 Apr 25 2; -5 - EST 1969;
    -5 u E%sT 1973; -5 - EST 2006; -5 u E%sT"),
  ("America/Indiana/Vincennes", "-5:50:7 - LMT 1883 Nov 18 18u; -6 u C%sT 1946; -6 V C%sT 1964 Apr
    26 2; -5 - EST 1969; -5 u E%sT 1971; -5 - EST 2006 Apr 2 2; -6 u C%sT 2007 Nov 4 2; -5 u E%sT"),
  ("America/Indiana/Winamac", "-5:46:25 - LMT 1883 Nov 18 18u; -6 u C%sT 1946; -6 Pu C%sT 1961 Apr
    30 2; -5 - EST 1969; -5 u E%sT 1971; -5 - EST 2006 Apr 2 2; -6 u C%sT 2007 Mar 11 2; -5 u
    E%sT"),
  ("America/Inuvik", "0 - -00 1953; -8 Y P%sT 1979 Apr lastSun 2; -7 Y M%sT 1980; -7 C M%sT"),
  ("America/Iqaluit", "0 - -00 1942 Aug; -5 Y E%sT 1999 Oct 31 2; -6 C C%sT 2000 Oct 29 2; -5 C
    E%sT"),
  ("America/Jamaica", "-5:7:10 - LMT 1890; -5:7:10 - KMT 1912 Feb; -5 - EST 1974; -5 u E%sT 1984; -5
    - EST"),
  ("America/Juneau", "15:2:19 - LMT 1867 Oct 19 15:33:32; -8:57:41 - LMT 1900 Aug 20 12; -8 - PST
    1942; -8 u P%sT 1946; -8 - PST 1969; -8 u P%sT 1980 Apr 27 2; -9 u Y%sT 1980 Oct 26 2; -8 u P%sT
    1983 Oct 30 2; -9 u Y%sT 1983 Nov 30; -9 u AK%sT"),
  ("America/Kentucky/Louisville", "-5:43:2 - LMT 1883 Nov 18 18u; -6 u C%sT 1921; -6 v C%sT 1942; -6
    u C%sT 1946; -6 v C%sT 1961 Jul 23 2; -5 - EST 1968; -5 u E%sT 1974 Jan 6 2; -6 1 CDT 1974 Oct
    27 2; -5 u E%sT"),
  ("America/Kentucky/Monticello", "-5:39:24 - LMT 1883 Nov 18 18u; -6 u C%sT 1946; -6 - CST 1968; -6
    u C%sT 2000 Oct 29 2; -5 u E%sT"),
  ("America/La_Paz", "-4:32:36 - LMT 1890; -4:32:36 - CMT 1931 Oct 15; -4:32:36 1 BST 1932 Mar 21;
    -4 - -04"),
  ("America/Lima", "-5:8:12 - LMT 1890; -5:8:36 - LMT 1908 Jul 28; -5 PE -05/-04"),
  ("America/Los_Angeles", "-7:52:58 - LMT 1883 Nov 18 20u; -8 u P%sT 1946; -8 CA P%sT 1967; -8 u
    P%sT"),
  ("America/Maceio", "-2:22:52 - LMT 1914; -3 B -03/-02 1990 Sep 17; -3 - -03 1995 Oct 13; -3 B
    -03/-02 1996 Sep 4; -3 - -03 1999 Sep 30; -3 B -03/-02 2000 Oct 22; -3 - -03 2001 Sep 13; -3 B
    -03/-02 2002 Oct; -3 - -03"),
  ("America/Managua", "-5:45:8 - LMT 1890; -5:45:12 - MMT 1934 Jun 23; -6 - CST 1973 May; -5 - EST
    1975 Feb 16; -6 NI C%sT 1992 Jan 1 4; -5 - EST 1992 Sep 24; -6 - CST 1993; -5 - EST 1997; -6 NI
    C%sT"),
  ("America/Manaus", "-4:0:4 - LMT 1914; -4 B -04/-03 1988 Sep 12; -4 - -04 1993 Sep 28; -4 B
    -04/-03 1994 Sep 22; -4 - -04"),
  ("America/Martinique", "-4:4:20 - LMT 1890; -4:4:20 - FFMT 1911 May; -4 - AST 1980 Apr 6; -4 1 ADT
    1980 Sep 28; -4 - AST"),
  ("America/Matamoros", "-6:30 - LMT 1922 Jan 1 6u; -6 - CST 1988; -6 u C%sT 1989; -6 m C%sT 2010;
    -6 u C%sT"),
  ("America/Mazatlan", "-7:5:40 - LMT 1922 Jan 1 7u; -7 - MST 1927 Jun 10; -6 - CST 1930 Nov 15; -7
    m M%sT 1932 Apr; -6 - CST 1942 Apr 24; -7 - MST 1970; -7 m M%sT"),
  ("America/Menominee", "-5:50:27 - LMT 1885 Sep 18 12; -6 u C%sT 1946; -6 Me C%sT 1969 Apr 27 2; -5
    - EST 1973 Apr 29 2; -6 u C%sT"),
  ("America/Merida", "-5:58:28 - LMT 1922 Jan 1 6u; -6 - CST 1981 Dec 26 2; -5 - EST 1982 Nov 2 2;
    -6 m C%sT"),
  ("America/Metlakatla", "15:13:42 - LMT 1867 Oct 19 15:44:55; -8:46:18 - LMT 1900 Aug 20 12; -8 -
    PST 1942; -8 u P%sT 1946; -8 - PST 1969; -8 u P%sT 1983 Oct 30 2; -8 - PST 2015 Nov 1 2; -9 u
    AK%sT 2018 Nov 4 2; -8 - PST 2019 Jan 20 2; -9 u AK%sT"),
  ("America/Mexico_City", "-6:36:36 - LMT 1922 Jan 1 7u; -7 - MST 1927 Jun 10; -6 - CST 1930 Nov 15;
    -7 m M%sT 1932 Apr; -6 m C%sT 2001 Sep 30 2; -6 - CST 2002 Feb 20; -6 m C%sT"),
  ("America/Miquelon", "-3:44:40 - LMT 1911 Jun 15; -4 - AST 1980 May; -3 - -03 1987; -3 C
    -03/-02"),
  ("America/Moncton", "-4:19:8 - LMT 1883 Dec 9; -5 - EST 1902 Jun 15; -4 C A%sT 1933; -4 o A%sT
    1942; -4 C A%sT 1946; -4 o A%sT 1973; -4 C A%sT 1993; -4 o A%sT 2007; -4 C A%sT"),
  ("America/Monterrey", "-6:41:16 - LMT 1922 Jan 1 6u; -7 - MST 1927 Jun 10; -6 - CST 1930 Nov 15;
    -7 m M%sT 1932 Apr; -6 - CST 1988; -6 u C%sT 1989; -6 m C%sT"),
  ("America/Montevideo", "-3:44:51 - LMT 1908 Jun 10; -3:44:51 - MMT 1920 May; -4 - -04 1923 Oct;
    -3:30 U -0330/-03 1942 Dec 14; -3 U -03/-0230 1960; -3 U -03/-02 1968; -3 U -03/-0230 1970; -3 U
    -03/-02 1974; -3 U -03/-0130 1974 Mar 10; -3 U -03/-0230 1974 Dec 22; -3 U -03/-02"),
  ("America/Montserrat", "-4:8:52 - LMT 1911 Jul 1 0:1; -4 - AST"),
  ("America/Nassau", "-5:9:30 - LMT 1912 Mar 2; -5 BS E%sT 1976; -5 u E%sT"),
  ("America/New_York", "-4:56:2 - LMT 1883 Nov 18 17u; -5 u E%sT 1920; -5 NY E%sT 1942; -5 u E%sT
    1946; -5 NY E%sT 1967; -5 u E%sT"),
  ("America/Nome", "12:58:22 - LMT 1867 Oct 19 13:29:35; -11:1:38 - LMT 1900 Aug 20 12; -11 - NST
    1942; -11 u N%sT 1946; -11 - NST 1967 Apr; -11 - BST 1969; -11 u B%sT 1983 Oct 30 2; -9 u Y%sT
    1983 Nov 30; -9 u AK%sT"),
  ("America/Noronha", "-2:9:40 - LMT 1914; -2 B -02/-01 1990 Sep 17; -2 - -02 1999 Sep 30; -2 B
    -02/-01 2000 Oct 15; -2 - -02 2001 Sep 13; -2 B -02/-01 2002 Oct; -2 - -02"),
  ("America/North_Dakota/Beulah", "-6:47:7 - LMT 1883 Nov 18 19u; -7 u M%sT 2010 Nov 7 2; -6 u
    C%sT"),
  ("America/North_Dakota/Center", "-6:45:12 - LMT 1883 Nov 18 19u; -7 u M%sT 1992 Oct 25 2; -6 u
    C%sT"),
  ("America/North_Dakota/New_Salem", "-6:45:39 - LMT 1883 Nov 18 19u; -7 u M%sT 2003 Oct 26 2; -6 u
    C%sT"),
  ("America/Nuuk", "-3:26:56 - LMT 1916 Jul 28; -3 - -03 1980 Apr 6 2; -3 E -03/-02 2023 Mar 26 1u;
    -2 - -02 2023 Oct 29 1u; -2 E -02/-01"),
  ("America/Ojinaga", "-6:57:40 - LMT 1922 Jan 1 7u; -7 - MST 1927 Jun 10; -6 - CST 1930 Nov 15; -7
    m M%sT 1932 Apr; -6 - CST 1996; -6 m C%sT 1998; -6 - CST 1998 Apr Sun>=1 3; -7 m M%sT 2010; -7 u
    M%sT 2022 Oct 30 2; -6 - CST 2022 Nov 30; -6 u C%sT"),
  ("America/Panama", "-5:18:8 - LMT 1890; -5:19:36 - CMT 1908 Apr 22; -5 - EST"),
  ("America/Paramaribo", "-3:40:40 - LMT 1911; -3:40:52 - PMT 1935; -3:40:36 - PMT 1945 Oct; -3:30 -
    -0330 1984 Oct; -3 - -03"),
  ("America/Phoenix", "-7:28:18 - LMT 1883 Nov 18 19u; -7 u M%sT 1944 Jan 1 0:1; -7 - MST 1944 Apr 1
    0:1; -7 u M%sT 1944 Oct 1 0:1; -7 - MST 1967; -7 u M%sT 1968 Mar 21; -7 - MST"),
  ("America/Port-au-Prince", "-4:49:20 - LMT 1890; -4:49 - PPMT 1917 Jan 24 12; -5 HT E%sT"),
  ("America/Port_of_Spain", "-4:6:4 - LMT 1912 Mar 2; -4 - AST"),
  ("America/Porto_Velho", "-4:15:36 - LMT 1914; -4 B -04/-03 1988 Sep 12; -4 - -04"),
  ("America/Puerto_Rico", "-4:24:25 - LMT 1899 Mar 28 12; -4 - AST 1942 May 3; -4 u A%sT 1946; -4 -
    AST"),
  ("America/Punta_Arenas", "-4:43:40 - LMT 1890; -4:42:45 - SMT 1910 Jan 10; -5 - -05 1916 Jul;
    -4:42:45 - SMT 1918 Sep 10; -4 - -04 1919 Jul; -4:42:45 - SMT 1927 Sep; -5 x -05/-04 1932 Sep;
    -4 - -04 1942 Jun; -5 - -05 1942 Aug; -4 - -04 1946 Aug 28 24; -5 1 -04 1947 Mar 31 24; -5 - -05
    1947 May 21 23; -4 x -04/-03 2016 Dec 4; -3 - -03"),
  ("America/Rankin_Inlet", "0 - -00 1957; -6 Y C%sT 2000 Oct 29 2; -5 - EST 2001 Apr 1 3; -6 C
    C%sT"),
  ("America/Recife", "-2:19:36 - LMT 1914; -3 B -03/-02 1990 Sep 17; -3 - -03 1999 Sep 30; -3 B
    -03/-02 2000 Oct 15; -3 - -03 2001 Sep 13; -3 B -03/-02 2002 Oct; -3 - -03"),
  ("America/Regina", "-6:58:36 - LMT 1905 Sep; -7 r M%sT 1960 Apr lastSun 2; -6 - CST"),
  ("America/Resolute", "0 - -00 1947 Aug 31; -6 Y C%sT 2000 Oct 29 2; -5 - EST 2001 Apr 1 3; -6 C
    C%sT 2006 Oct 29 2; -5 - EST 2007 Mar 11 3; -6 C C%sT"),
  ("America/Rio_Branco", "-4:31:12 - LMT 1914; -5 B -05/-04 1988 Sep 12; -5 - -05 2008 Jun 24; -4 -
    -04 2013 Nov 10; -5 - -05"),
  ("America/Santarem", "-3:38:48 - LMT 1914; -4 B -04/-03 1988 Sep 12; -4 - -04 2008 Jun 24; -3 -
    -03"),
  ("America/Santiago", "-4:42:45 - LMT 1890; -4:42:45 - SMT 1910 Jan 10; -5 - -05 1916 Jul; -4:42:45
    - SMT 1918 Sep 10; -4 - -04 1919 Jul; -4:42:45 - SMT 1927 Sep; -5 x -05/-04 1932 Sep; -4 - -04
    1942 Jun; -5 - -05 1942 Aug; -4 - -04 1946 Jul 14 24; -4 1 -03 1946 Aug 28 24; -5 1 -04 1947 Mar
    31 24; -5 - -05 1947 May 21 23; -4 x -04/-03"),
  ("America/Santo_Domingo", "-4:39:36 - LMT 1890; -4:40 - SDMT 1933 Apr 1 12; -5 DO %s 1974 Oct 27;
    -4 - AST 2000 Oct 29 2; -5 u E%sT 2000 Dec 3 1; -4 - AST"),
  ("America/Sao_Paulo", "-3:6:28 - LMT 1914; -3 B -03/-02 1963 Oct 23; -3 1 -02 1964; -3 B
    -03/-02"),
  ("America/Scoresbysund", "-1:27:52 - LMT 1916 Jul 28; -2 - -02 1980 Apr 6 2; -2 c -02/-01 1981 Mar
    29; -1 E -01/+00 2024 Mar 31; -2 E -02/-01"),
  ("America/Sitka", "14:58:47 - LMT 1867 Oct 19 15:30; -9:1:13 - LMT 1900 Aug 20 12; -8 - PST 1942;
    -8 u P%sT 1946; -8 - PST 1969; -8 u P%sT 1983 Oct 30 2; -9 u Y%sT 1983 Nov 30; -9 u AK%sT"),
  ("America/St_Johns", "-3:30:52 - LMT 1884; -3:30:52 j N%sT 1918; -3:30:52 C N%sT 1919; -3:30:52 j
    N%sT 1935 Mar 30; -3:30 j N%sT 1942 May 11; -3:30 C N%sT 1946; -3:30 j N%sT 2011 Nov; -3:30 C
    N%sT"),
  ("America/St_Kitts", "-4:10:52 - LMT 1912 Mar 2; -4 - AST"),
  ("America/St_Lucia", "-4:4 - LMT 1890; -4:4 - CMT 1912; -4 - AST"),
  ("America/St_Thomas", "-4:19:44 - LMT 1911 Jul; -4 - AST"),
  ("America/St_Vincent", "-4:4:56 - LMT 1890; -4:4:56 - KMT 1912; -4 - AST"),
  ("America/Swift_Current", "-7:11:20 - LMT 1905 Sep; -7 C M%sT 1946 Apr lastSun 2; -7 r M%sT 1950;
    -7 Sw M%sT 1972 Apr lastSun 2; -6 - CST"),
  ("America/Tegucigalpa", "-5:48:52 - LMT 1921 Apr; -6 HN C%sT"),
  ("America/Thule", "-4:35:8 - LMT 1916 Jul 28; -4 Th A%sT"),
  ("America/Tijuana", "-7:48:4 - LMT 1922 Jan 1 7u; -7 - MST 1924; -8 - PST 1927 Jun 10; -7 - MST
    1930 Nov 15; -8 - PST 1931 Apr; -8 1 PDT 1931 Sep 30; -8 - PST 1942 Apr 24; -8 1 PWT 1945 Aug 14
    23u; -8 1 PPT 1945 Nov 15; -8 - PST 1948 Apr 5; -8 1 PDT 1949 Jan 14; -8 - PST 1950 May; -8 1
    PDT 1950 Sep 24; -8 - PST 1951 Apr 29 2; -8 1 PDT 1951 Sep 30 2; -8 - PST 1952 Apr 27 2; -8 1
    PDT 1952 Sep 28 2; -8 CA P%sT 1967; -8 u P%sT 1996; -8 m P%sT 2001; -8 u P%sT 2002 Feb 20; -8 m
    P%sT 2010; -8 u P%sT"),
  ("America/Toronto", "-5:17:32 - LMT 1895; -5 C E%sT 1919; -5 t E%sT 1942 Feb 9 2s; -5 C E%sT 1946;
    -5 t E%sT 1974; -5 C E%sT"),
  ("America/Tortola", "-4:18:28 - LMT 1911 Jul; -4 - AST"),
  ("America/Vancouver", "-8:12:28 - LMT 1884; -8 Va P%sT 1987; -8 C P%sT"),
  ("America/Whitehorse", "-9:0:12 - LMT 1900 Aug 20; -9 Y Y%sT 1965; -9 Yu Y%sT 1966 Feb 27; -8 -
    PST 1980; -8 C P%sT 2020 Nov; -7 - MST"),
  ("America/Winnipeg", "-6:28:36 - LMT 1887 Jul 16; -6 W C%sT 2006; -6 C C%sT"),
  ("America/Yakutat", "14:41:5 - LMT 1867 Oct 19 15:12:18; -9:18:55 - LMT 1900 Aug 20 12; -9 - YST
    1942; -9 u Y%sT 1946; -9 - YST 1969; -9 u Y%sT 1983 Nov 30; -9 u AK%sT"),
  ("Antarctica/Casey", "0 - -00 1969; 8 - +08 2009 Oct 18 2; 11 - +11 2010 Mar 5 2; 8 - +08 2011 Oct
    28 2; 11 - +11 2012 Feb 21 17u; 8 - +08 2016 Oct 22; 11 - +11 2018 Mar 11 4; 8 - +08 2018 Oct 7
    4; 11 - +11 2019 Mar 17 3; 8 - +08 2019 Oct 4 3; 11 - +11 2020 Mar 8 3; 8 - +08 2020 Oct 4 0:1;
    11 - +11 2021 Mar 14; 8 - +08 2021 Oct 3 0:1; 11 - +11 2022 Mar 13; 8 - +08 2022 Oct 2 0:1; 11 -
    +11 2023 Mar 9 3; 8 - +08"),
  ("Antarctica/Davis", "0 - -00 1957 Jan 13; 7 - +07 1964 Nov; 0 - -00 1969 Feb; 7 - +07 2009 Oct 18
    2; 5 - +05 2010 Mar 10 20u; 7 - +07 2011 Oct 28 2; 5 - +05 2012 Feb 21 20u; 7 - +07"),
  ("Antarctica/DumontDUrville", "0 - -00 1947; 10 - +10 1952 Jan 14; 0 - -00 1956 Nov; 10 - +10"),
  ("Antarctica/Macquarie", "0 - -00 1899 Nov; 10 - AEST 1916 Oct 1 2; 10 1 AEDT 1917 Feb; 10 AU
    AE%sT 1919 Apr 1 0s; 0 - -00 1948 Mar 25; 10 AU AE%sT 1967; 10 AT AE%sT 2010; 10 1 AEDT 2011; 10
    AT AE%sT"),
  ("Antarctica/Mawson", "0 - -00 1954 Feb 13; 6 - +06 2009 Oct 18 2; 5 - +05"),
  ("Antarctica/McMurdo", "0 - -00 1956; 12 NZ NZ%sT"),
  ("Antarctica/Palmer", "0 - -00 1965; -4 A -04/-03 1969 Oct 5; -3 A -03/-02 1982 May; -4 x -04/-03
    2016 Dec 4; -3 - -03"),
  ("Antarctica/Rothera", "0 - -00 1976 Dec; -3 - -03"),
  ("Antarctica/Syowa", "0 - -00 1957 Jan 29; 3 - +03"),
  ("Antarctica/Troll", "0 - -00 2005 Feb 12; 0 Tr %s"),
  ("Antarctica/Vostok", "0 - -00 1957 Dec 16; 7 - +07 1994 Feb; 0 - -00 1994 Nov; 7 - +07 2023 Dec
    18 2; 5 - +05"),
  ("Asia/Aden", "2:59:54 - LMT 1950; 3 - +03"),
  ("Asia/Almaty", "5:7:48 - LMT 1924 May 2; 5 - +05 1930 Jun 21; 6 R +06/+07 1991 Mar 31 2s; 5 R
    +05/+06 1992 Jan 19 2s; 6 R +06/+07 2004 Oct 31 2s; 6 - +06 2024 Mar; 5 - +05"),
  ("Asia/Amman", "2:23:44 - LMT 1931; 2 J EE%sT 2022 Oct 28 0s; 3 - +03"),
  ("Asia/Anadyr", "11:49:56 - LMT 1924 May 2; 12 - +12 1930 Jun 21; 13 R +13/+14 1982 Apr 1 0s; 12 R
    +12/+13 1991 Mar 31 2s; 11 R +11/+12 1992 Jan 19 2s; 12 R +12/+13 2010 Mar 28 2s; 11 R +11/+12
    2011 Mar 27 2s; 12 - +12"),
  ("Asia/Aqtau", "3:21:4 - LMT 1924 May 2; 4 - +04 1930 Jun 21; 5 - +05 1981 Oct; 6 - +06 1982 Apr;
    5 R +05/+06 1991 Mar 31 2s; 4 R +04/+05 1992 Jan 19 2s; 5 R +05/+06 1994 Sep 25 2s; 4 R +04/+05
    2004 Oct 31 2s; 5 - +05"),
  ("Asia/Aqtobe", "3:48:40 - LMT 1924 May 2; 4 - +04 1930 Jun 21; 5 - +05 1981 Apr; 5 1 +06 1981
    Oct; 6 - +06 1982 Apr; 5 R +05/+06 1991 Mar 31 2s; 4 R +04/+05 1992 Jan 19 2s; 5 R +05/+06 2004
    Oct 31 2s; 5 - +05"),
  ("Asia/Ashgabat", "3:53:32 - LMT 1924 May 2; 4 - +04 1930 Jun 21; 5 R +05/+06 1991 Mar 31 2; 4 R
    +04/+05 1992 Jan 19 2; 5 - +05"),
  ("Asia/Atyrau", "3:27:44 - LMT 1924 May 2; 3 - +03 1930 Jun 21; 5 - +05 1981 Oct; 6 - +06 1982
    Apr; 5 R +05/+06 1991 Mar 31 2s; 4 R +04/+05 1992 Jan 19 2s; 5 R +05/+06 1999 Mar 28 2s; 4 R
    +04/+05 2004 Oct 31 2s; 5 - +05"),
  ("Asia/Baghdad", "2:57:40 - LMT 1890; 2:57:36 - BMT 1918; 3 - +03 1982 May; 3 IQ +03/+04"),
  ("Asia/Bahrain", "3:22:20 - LMT 1941 Jul 20; 3:30 - +0330 1944; 4 - +04 1972 Jun; 3 - +03"),
  ("Asia/Baku", "3:19:24 - LMT 1924 May 2; 3 - +03 1957 Mar; 4 R +04/+05 1991 Mar 31 2s; 3 R +03/+04
    1992 Sep lastSun 2s; 4 - +04 1996; 4 E +04/+05 1997; 4 AZ +04/+05"),
  ("Asia/Bangkok", "6:42:4 - LMT 1880; 6:42:4 - BMT 1920 Apr; 7 - +07"),
  ("Asia/Barnaul", "5:35 - LMT 1919 Dec 10; 6 - +06 1930 Jun 21; 7 R +07/+08 1991 Mar 31 2s; 6 R
    +06/+07 1992 Jan 19 2s; 7 R +07/+08 1995 May 28; 6 R +06/+07 2011 Mar 27 2s; 7 - +07 2014 Oct 26
    2s; 6 - +06 2016 Mar 27 2s; 7 - +07"),
  ("Asia/Beirut", "2:22 - LMT 1880; 2 l EE%sT"),
  ("Asia/Bishkek", "4:58:24 - LMT 1924 May 2; 5 - +05 1930 Jun 21; 6 R +06/+07 1991 Mar 31 2s; 5 R
    +05/+06 1991 Aug 31 2; 5 KG +05/+06 2005 Aug 12; 6 - +06"),
  ("Asia/Brunei", "7:39:40 - LMT 1926 Mar; 7:30 - +0730 1933; 8 - +08"),
  ("Asia/Chita", "7:33:52 - LMT 1919 Dec 15; 8 - +08 1930 Jun 21; 9 R +09/+10 1991 Mar 31 2s; 8 R
    +08/+09 1992 Jan 19 2s; 9 R +09/+10 2011 Mar 27 2s; 10 - +10 2014 Oct 26 2s; 8 - +08 2016 Mar 27
    2; 9 - +09"),
  ("Asia/Colombo", "5:19:24 - LMT 1880; 5:19:32 - MMT 1906; 5:30 - +0530 1942 Jan 5; 5:30 0:30 +06
    1942 Sep; 5:30 1 +0630 1945 Oct 16 2; 5:30 - +0530 1996 May 25; 6:30 - +0630 1996 Oct 26 0:30; 6
    - +06 2006 Apr 15 0:30; 5:30 - +0530"),
  ("Asia/Damascus", "2:25:12 - LMT 1920; 2 S EE%sT 2022 Oct 28; 3 - +03"),
  ("Asia/Dhaka", "6:1:40 - LMT 1890; 5:53:20 - HMT 1941 Oct; 6:30 - +0630 1942 May 15; 5:30 - +0530
    1942 Sep; 6:30 - +0630 1951 Sep 30; 6 - +06 2009; 6 BD +06/+07"),
  ("Asia/Dili", "8:22:20 - LMT 1911 Dec 31 16u; 8 - +08 1942 Feb 21 23; 9 - +09 1976 May 3; 8 - +08
    2000 Sep 17; 9 - +09"),
  ("Asia/Dubai", "3:41:12 - LMT 1920; 4 - +04"),
  ("Asia/Dushanbe", "4:35:12 - LMT 1924 May 2; 5 - +05 1930 Jun 21; 6 R +06/+07 1991 Mar 31 2s; 5 1
    +06 1991 Sep 9 2s; 5 - +05"),
  ("Asia/Famagusta", "2:15:48 - LMT 1921 Nov 14; 2 CY EE%sT 1998 Sep; 2 E EE%sT 2016 Sep 8; 3 - +03
    2017 Oct 29 1u; 2 E EE%sT"),
  ("Asia/Gaza", "2:17:52 - LMT 1900 Oct; 2 Z EET/EEST 1948 May 15; 2 K EE%sT 1967 Jun 5; 2 Z I%sT
    1996; 2 J EE%sT 1999; 2 P EE%sT 2008 Aug 29; 2 - EET 2008 Sep; 2 P EE%sT 2010; 2 - EET 2010 Mar
    27 0:1; 2 P EE%sT 2011 Aug; 2 - EET 2012; 2 P EE%sT"),
  ("Asia/Hebron", "2:20:23 - LMT 1900 Oct; 2 Z EET/EEST 1948 May 15; 2 K EE%sT 1967 Jun 5; 2 Z I%sT
    1996; 2 J EE%sT 1999; 2 P EE%sT"),
  ("Asia/Ho_Chi_Minh", "7:6:30 - LMT 1906 Jul; 7:6:30 - PLMT 1911 May; 7 - +07 1942 Dec 31 23; 8 -
    +08 1945 Mar 14 23; 9 - +09 1945 Sep 1 24; 7 - +07 1947 Apr; 8 - +08 1955 Jul 1 1; 7 - +07 1959
    Dec 31 23; 8 - +08 1975 Jun 13; 7 - +07"),
  ("Asia/Hong_Kong", "7:36:42 - LMT 1904 Oct 29 17u; 8 - HKT 1941 Jun 15 3; 8 1 HKST 1941 Oct 1 4; 8
    0:30 HKWT 1941 Dec 25; 9 - JST 1945 Nov 18 2; 8 HK HK%sT"),
  ("Asia/Hovd", "6:6:36 - LMT 1905 Aug; 6 - +06 1978; 7 X +07/+08"),
  ("Asia/Irkutsk", "6:57:5 - LMT 1880; 6:57:5 - IMT 1920 Jan 25; 7 - +07 1930 Jun 21; 8 R +08/+09
    1991 Mar 31 2s; 7 R +07/+08 1992 Jan 19 2s; 8 R +08/+09 2011 Mar 27 2s; 9 - +09 2014 Oct 26 2s;
    8 - +08"),
  ("Asia/Jakarta", "7:7:12 - LMT 1867 Aug 10; 7:7:12 - BMT 1923 Dec 31 16:40u; 7:20 - +0720 1932
    Nov; 7:30 - +0730 1942 Mar 23; 9 - +09 1945 Sep 23; 7:30 - +0730 1948 May; 8 - +08 1950 May;
    7:30 - +0730 1964; 7 - WIB"),
  ("Asia/Jayapura", "9:22:48 - LMT 1932 Nov; 9 - +09 1944 Sep; 9:30 - +0930 1964; 9 - WIT"),
  ("Asia/Jerusalem", "2:20:54 - LMT 1880; 2:20:40 - JMT 1918; 2 Z I%sT"),
  ("Asia/Kabul", "4:36:48 - LMT 1890; 4 - +04 1945; 4:30 - +0430"),
  ("Asia/Kamchatka", "10:34:36 - LMT 1922 Nov 10; 11 - +11 1930 Jun 21; 12 R +12/+13 1991 Mar 31 2s;
    11 R +11/+12 1992 Jan 19 2s; 12 R +12/+13 2010 Mar 28 2s; 11 R +11/+12 2011 Mar 27 2s; 12 -
    +12"),
  ("Asia/Karachi", "4:28:12 - LMT 1907; 5:30 - +0530 1942 Sep; 5:30 1 +0630 1945 Oct 15; 5:30 -
    +0530 1951 Sep 30; 5 - +05 1971 Mar 26; 5 PK PK%sT"),
  ("Asia/Kathmandu", "5:41:16 - LMT 1920; 5:30 - +0530 1986; 5:45 - +0545"),
  ("Asia/Khandyga", "9:2:13 - LMT 1919 Dec 15; 8 - +08 1930 Jun 21; 9 R +09/+10 1991 Mar 31 2s; 8 R
    +08/+09 1992 Jan 19 2s; 9 R +09/+10 2004; 10 R +10/+11 2011 Mar 27 2s; 11 - +11 2011 Sep 13 0s;
    10 - +10 2014 Oct 26 2s; 9 - +09"),
  ("Asia/Kolkata", "5:53:28 - LMT 1854 Jun 28; 5:53:20 - HMT 1870; 5:21:10 - MMT 1906; 5:30 - IST
    1941 Oct; 5:30 1 +0630 1942 May 15; 5:30 - IST 1942 Sep; 5:30 1 +0630 1945 Oct 15; 5:30 - IST"),
  ("Asia/Krasnoyarsk", "6:11:26 - LMT 1920 Jan 6; 6 - +06 1930 Jun 21; 7 R +07/+08 1991 Mar 31 2s; 6
    R +06/+07 1992 Jan 19 2s; 7 R +07/+08 2011 Mar 27 2s; 8 - +08 2014 Oct 26 2s; 7 - +07"),
  ("Asia/Kuala_Lumpur", "6:46:46 - LMT 1901; 6:55:25 - SMT 1905 Jun; 7 - +07 1933; 7 0:20 +0720
    1936; 7:20 - +0720 1941 Sep; 7:30 - +0730 1942 Feb 16; 9 - +09 1945 Sep 12; 7:30 - +0730 1981
    Dec 31 16u; 8 - +08"),
  ("Asia/Kuching", "7:21:20 - LMT 1926 Mar; 7:30 - +0730 1933; 8 NB +08/+0820 1942 Feb 16; 9 - +09
    1945 Sep 12; 8 - +08"),
  ("Asia/Kuwait", "3:11:56 - LMT 1950; 3 - +03"),
  ("Asia/Macau", "7:34:10 - LMT 1904 Oct 30; 8 - CST 1941 Dec 21 23; 9 _ +09/+10 1945 Sep 30 24; 8 _
    C%sT"),
  ("Asia/Magadan", "10:3:12 - LMT 1924 May 2; 10 - +10 1930 Jun 21; 11 R +11/+12 1991 Mar 31 2s; 10
    R +10/+11 1992 Jan 19 2s; 11 R +11/+12 2011 Mar 27 2s; 12 - +12 2014 Oct 26 2s; 10 - +10 2016
    Apr 24 2s; 11 - +11"),
  ("Asia/Makassar", "7:57:36 - LMT 1920; 7:57:36 - MMT 1932 Nov; 8 - +08 1942 Feb 9; 9 - +09 1945
    Sep 23; 8 - WITA"),
  ("Asia/Manila", "-15:56:8 - LMT 1844 Dec 31; 8:3:52 - LMT 1899 Sep 6 4u; 8 PH P%sT 1942 Feb 11 24;
    9 - JST 1945 Mar 4; 8 PH P%sT"),
  ("Asia/Muscat", "3:54:24 - LMT 1920; 4 - +04"),
  ("Asia/Nicosia", "2:13:28 - LMT 1921 Nov 14; 2 CY EE%sT 1998 Sep; 2 E EE%sT"),
  ("Asia/Novokuznetsk", "5:48:48 - LMT 1924 May; 6 - +06 1930 Jun 21; 7 R +07/+08 1991 Mar 31 2s; 6
    R +06/+07 1992 Jan 19 2s; 7 R +07/+08 2010 Mar 28 2s; 6 R +06/+07 2011 Mar 27 2s; 7 - +07"),
  ("Asia/Novosibirsk", "5:31:40 - LMT 1919 Dec 14 6; 6 - +06 1930 Jun 21; 7 R +07/+08 1991 Mar 31
    2s; 6 R +06/+07 1992 Jan 19 2s; 7 R +07/+08 1993 May 23; 6 R +06/+07 2011 Mar 27 2s; 7 - +07
    2014 Oct 26 2s; 6 - +06 2016 Jul 24 2s; 7 - +07"),
  ("Asia/Omsk", "4:53:30 - LMT 1919 Nov 14; 5 - +05 1930 Jun 21; 6 R +06/+07 1991 Mar 31 2s; 5 R
    +05/+06 1992 Jan 19 2s; 6 R +06/+07 2011 Mar 27 2s; 7 - +07 2014 Oct 26 2s; 6 - +06"),
  ("Asia/Oral", "3:25:24 - LMT 1924 May 2; 3 - +03 1930 Jun 21; 5 - +05 1981 Apr; 5 1 +06 1981 Oct;
    6 - +06 1982 Apr; 5 R +05/+06 1989 Mar 26 2s; 4 R +04/+05 1992 Jan 19 2s; 5 R +05/+06 1992 Mar
    29 2s; 4 R +04/+05 2004 Oct 31 2s; 5 - +05"),
  ("Asia/Phnom_Penh", "6:59:40 - LMT 1906 Jul; 7:6:30 - PLMT 1911 May; 7 - +07 1942 Dec 31 23; 8 -
    +08 1945 Mar 14 23; 9 - +09 1945 Sep 2; 7 - +07"),
  ("Asia/Pontianak", "7:17:20 - LMT 1908 May; 7:17:20 - PMT 1932 Nov; 7:30 - +0730 1942 Jan 29; 9 -
    +09 1945 Sep 23; 7:30 - +0730 1948 May; 8 - +08 1950 May; 7:30 - +0730 1964; 8 - WITA 1988; 7 -
    WIB"),
  ("Asia/Pyongyang", "8:23 - LMT 1908 Apr; 8:30 - KST 1912; 9 - JST 1945 Aug 24; 9 - KST 2015 Aug
    15; 8:30 - KST 2018 May 4 23:30; 9 - KST"),
  ("Asia/Qatar", "3:26:8 - LMT 1920; 4 - +04 1972 Jun; 3 - +03"),
  ("Asia/Qostanay", "4:14:28 - LMT 1924 May 2; 4 - +04 1930 Jun 21; 5 - +05 1981 Apr; 5 1 +06 1981
    Oct; 6 - +06 1982 Apr; 5 R +05/+06 1991 Mar 31 2s; 4 R +04/+05 1992 Jan 19 2s; 5 R +05/+06 2004
    Oct 31 2s; 6 - +06 2024 Mar; 5 - +05"),
  ("Asia/Qyzylorda", "4:21:52 - LMT 1924 May 2; 4 - +04 1930 Jun 21; 5 - +05 1981 Apr; 5 1 +06 1981
    Oct; 6 - +06 1982 Apr; 5 R +05/+06 1991 Mar 31 2s; 4 R +04/+05 1991 Sep 29 2s; 5 R +05/+06 1992
    Jan 19 2s; 6 R +06/+07 1992 Mar 29 2s; 5 R +05/+06 2004 Oct 31 2s; 6 - +06 2018 Dec 21; 5 -
    +05"),
  ("Asia/Riyadh", "3:6:52 - LMT 1947 Mar 14; 3 - +03"),
  ("Asia/Sakhalin", "9:30:48 - LMT 1905 Aug 23; 9 - +09 1945 Aug 25; 11 R +11/+12 1991 Mar 31 2s; 10
    R +10/+11 1992 Jan 19 2s; 11 R +11/+12 1997 Mar lastSun 2s; 10 R +10/+11 2011 Mar 27 2s; 11 -
    +11 2014 Oct 26 2s; 10 - +10 2016 Mar 27 2s; 11 - +11"),
  ("Asia/Samarkand", "4:27:53 - LMT 1924 May 2; 4 - +04 1930 Jun 21; 5 - +05 1981 Apr; 5 1 +06 1981
    Oct; 6 - +06 1982 Apr; 5 R +05/+06 1992; 5 - +05"),
  ("Asia/Seoul", "8:27:52 - LMT 1908 Apr; 8:30 - KST 1912; 9 - JST 1945 Sep 8; 9 KR K%sT 1954 Mar
    21; 8:30 KR K%sT 1961 Aug 10; 9 KR K%sT"),
  ("Asia/Shanghai", "8:5:43 - LMT 1901; 8 Sh C%sT 1949 May 28; 8 CN C%sT"),
  ("Asia/Singapore", "6:55:25 - LMT 1901; 6:55:25 - SMT 1905 Jun; 7 - +07 1933; 7 0:20 +0720 1936;
    7:20 - +0720 1941 Sep; 7:30 - +0730 1942 Feb 16; 9 - +09 1945 Sep 12; 7:30 - +0730 1981 Dec 31
    16u; 8 - +08"),
  ("Asia/Srednekolymsk", "10:14:52 - LMT 1924 May 2; 10 - +10 1930 Jun 21; 11 R +11/+12 1991 Mar 31
    2s; 10 R +10/+11 1992 Jan 19 2s; 11 R +11/+12 2011 Mar 27 2s; 12 - +12 2014 Oct 26 2s; 11 -
    +11"),
  ("Asia/Taipei", "8:6 - LMT 1896; 8 - CST 1937 Oct; 9 - JST 1945 Sep 21 1; 8 f C%sT"),
  ("Asia/Tashkent", "4:37:11 - LMT 1924 May 2; 5 - +05 1930 Jun 21; 6 R +06/+07 1991 Mar 31 2; 5 R
    +05/+06 1992; 5 - +05"),
  ("Asia/Tbilisi", "2:59:11 - LMT 1880; 2:59:11 - TBMT 1924 May 2; 3 - +03 1957 Mar; 4 R +04/+05
    1991 Mar 31 2s; 3 R +03/+04 1992; 3 e +03/+04 1994 Sep lastSun; 4 e +04/+05 1996 Oct lastSun; 4
    1 +05 1997 Mar lastSun; 4 e +04/+05 2004 Jun 27; 3 R +03/+04 2005 Mar lastSun 2; 4 - +04"),
  ("Asia/Tehran", "3:25:44 - LMT 1916; 3:25:44 - TMT 1935 Jun 13; 3:30 i +0330/+0430 1977 Oct 20 24;
    4 i +04/+05 1978 Nov 10 24; 3:30 i +0330/+0430"),
  ("Asia/Thimphu", "5:58:36 - LMT 1947 Aug 15; 5:30 - +0530 1987 Oct; 6 - +06"),
  ("Asia/Tokyo", "9:18:59 - LMT 1887 Dec 31 15u; 9 JP J%sT"),
  ("Asia/Tomsk", "5:39:51 - LMT 1919 Dec 22; 6 - +06 1930 Jun 21; 7 R +07/+08 1991 Mar 31 2s; 6 R
    +06/+07 1992 Jan 19 2s; 7 R +07/+08 2002 May 1 3; 6 R +06/+07 2011 Mar 27 2s; 7 - +07 2014 Oct
    26 2s; 6 - +06 2016 May 29 2s; 7 - +07"),
  ("Asia/Ulaanbaatar", "7:7:32 - LMT 1905 Aug; 7 - +07 1978; 8 X +08/+09"),
  ("Asia/Urumqi", "5:50:20 - LMT 1928; 6 - +06"),
  ("Asia/Ust-Nera", "9:32:54 - LMT 1919 Dec 15; 8 - +08 1930 Jun 21; 9 R +09/+10 1981 Apr; 11 R
    +11/+12 1991 Mar 31 2s; 10 R +10/+11 1992 Jan 19 2s; 11 R +11/+12 2011 Mar 27 2s; 12 - +12 2011
    Sep 13 0s; 11 - +11 2014 Oct 26 2s; 10 - +10"),
  ("Asia/Vientiane", "6:50:24 - LMT 1906 Jul; 7:6:30 - PLMT 1911 May; 7 - +07 1942 Dec 31 23; 8 -
    +08 1945 Mar 14 23; 9 - +09 1945 Sep 2; 7 - +07 1947 Apr; 8 - +08 1955 Apr 15; 7 - +07"),
  ("Asia/Vladivostok", "8:47:31 - LMT 1922 Nov 15; 9 - +09 1930 Jun 21; 10 R +10/+11 1991 Mar 31 2s;
    9 R +09/+10 1992 Jan 19 2s; 10 R +10/+11 2011 Mar 27 2s; 11 - +11 2014 Oct 26 2s; 10 - +10"),
  ("Asia/Yakutsk", "8:38:58 - LMT 1919 Dec 15; 8 - +08 1930 Jun 21; 9 R +09/+10 1991 Mar 31 2s; 8 R
    +08/+09 1992 Jan 19 2s; 9 R +09/+10 2011 Mar 27 2s; 10 - +10 2014 Oct 26 2s; 9 - +09"),
  ("Asia/Yangon", "6:24:47 - LMT 1880; 6:24:47 - RMT 1920; 6:30 - +0630 1942 May; 9 - +09 1945 May
    3; 6:30 - +0630"),
  ("Asia/Yekaterinburg", "4:2:33 - LMT 1916 Jul 3; 3:45:5 - PMT 1919 Jul 15 4; 4 - +04 1930 Jun 21;
    5 R +05/+06 1991 Mar 31 2s; 4 R +04/+05 1992 Jan 19 2s; 5 R +05/+06 2011 Mar 27 2s; 6 - +06 2014
    Oct 26 2s; 5 - +05"),
  ("Asia/Yerevan", "2:58 - LMT 1924 May 2; 3 - +03 1957 Mar; 4 R +04/+05 1991 Mar 31 2s; 3 R +03/+04
    1995 Sep 24 2s; 4 - +04 1997; 4 R +04/+05 2011; 4 AM +04/+05"),
  ("Atlantic/Azores", "-1:42:40 - LMT 1884; -1:54:32 - HMT 1912 Jan 1 2u; -2 p -02/-01 1942 Apr 25
    22s; -2 p +00 1942 Aug 15 22s; -2 p -02/-01 1943 Apr 17 22s; -2 p +00 1943 Aug 28 22s; -2 p
    -02/-01 1944 Apr 22 22s; -2 p +00 1944 Aug 26 22s; -2 p -02/-01 1945 Apr 21 22s; -2 p +00 1945
    Aug 25 22s; -2 p -02/-01 1966 Oct 2 2s; -1 - -01 1982 Mar 28 0s; -1 p -01/+00 1986; -1 E -01/+00
    1992 Dec 27 1s; 0 E WE%sT 1993 Jun 17 1u; -1 E -01/+00"),
  ("Atlantic/Bermuda", "-4:19:18 - LMT 1890; -4:19:18 Be BMT/BST 1930 Jan 1 2; -4 Be A%sT 1974 Apr
    28 2; -4 C A%sT 1976; -4 u A%sT"),
  ("Atlantic/Canary", "-1:1:36 - LMT 1922 Mar; -1 - -01 1946 Sep 30 1; 0 - WET 1980 Apr 6 0s; 0 1
    WEST 1980 Sep 28 1u; 0 E WE%sT"),
  ("Atlantic/Cape_Verde", "-1:34:4 - LMT 1912 Jan 1 2u; -2 - -02 1942 Sep; -2 1 -01 1945 Oct 15; -2
    - -02 1975 Nov 25 2; -1 - -01"),
  ("Atlantic/Faroe", "-0:27:4 - LMT 1908 Jan 11; 0 - WET 1981; 0 E WE%sT"),
  ("Atlantic/Madeira", "-1:7:36 - LMT 1884; -1:7:36 - FMT 1912 Jan 1 1u; -1 p -01/+00 1942 Apr 25
    22s; -1 p +01 1942 Aug 15 22s; -1 p -01/+00 1943 Apr 17 22s; -1 p +01 1943 Aug 28 22s; -1 p
    -01/+00 1944 Apr 22 22s; -1 p +01 1944 Aug 26 22s; -1 p -01/+00 1945 Apr 21 22s; -1 p +01 1945
    Aug 25 22s; -1 p -01/+00 1966 Oct 2 2s; 0 - WET 1982 Apr 4; 0 p WE%sT 1986 Jul 31; 0 E WE%sT"),
  ("Atlantic/Reykjavik", "-1:28 - LMT 1908; -1 w -01/+00 1968 Apr 7 1s; 0 - GMT"),
  ("Atlantic/South_Georgia", "-2:26:8 - LMT 1890; -2 - -02"),
  ("Atlantic/St_Helena", "-0:22:48 - LMT 1890; -0:22:48 - JMT 1951; 0 - GMT"),
  ("Atlantic/Stanley", "-3:51:24 - LMT 1890; -3:51:24 - SMT 1912 Mar 12; -4 FK -04/-03 1983 May; -3
    FK -03/-02 1985 Sep 15; -4 FK -04/-03 2010 Sep 5 2; -3 - -03"),
  ("Australia/Adelaide", "9:14:20 - LMT 1895 Feb; 9 - ACST 1899 May; 9:30 AU AC%sT 1971; 9:30 AS
    AC%sT"),
  ("Australia/Brisbane", "10:12:8 - LMT 1895; 10 AU AE%sT 1971; 10 AQ AE%sT"),
  ("Australia/Broken_Hill", "9:25:48 - LMT 1895 Feb; 10 - AEST 1896 Aug 23; 9 - ACST 1899 May; 9:30
    AU AC%sT 1971; 9:30 AN AC%sT 2000; 9:30 AS AC%sT"),
  ("Australia/Darwin", "8:43:20 - LMT 1895 Feb; 9 - ACST 1899 May; 9:30 AU AC%sT"),
  ("Australia/Eucla", "8:35:28 - LMT 1895 Dec; 8:45 AU +0845/+0945 1943 Jul; 8:45 AW +0845/+0945"),
  ("Australia/Hobart", "9:49:16 - LMT 1895 Sep; 10 AT AE%sT 1919 Oct 24; 10 AU AE%sT 1967; 10 AT
    AE%sT"),
  ("Australia/Lindeman", "9:55:56 - LMT 1895; 10 AU AE%sT 1971; 10 AQ AE%sT 1992 Jul; 10 Ho AE%sT"),
  ("Australia/Lord_Howe", "10:36:20 - LMT 1895 Feb; 10 - AEST 1981 Mar; 10:30 LH +1030/+1130 1985
    Jul; 10:30 LH +1030/+11"),
  ("Australia/Melbourne", "9:39:52 - LMT 1895 Feb; 10 AU AE%sT 1971; 10 AV AE%sT"),
  ("Australia/Perth", "7:43:24 - LMT 1895 Dec; 8 AU AW%sT 1943 Jul; 8 AW AW%sT"),
  ("Australia/Sydney", "10:4:52 - LMT 1895 Feb; 10 AU AE%sT 1971; 10 AN AE%sT"),
  ("CET", "1 c CE%sT"),
  ("CST6CDT", "-6 u C%sT"),
  ("EET", "2 E EE%sT"),
  ("EST", "-5 - EST"),
  ("EST5EDT", "-5 u E%sT"),
  ("Etc/GMT", "0 - GMT"),
  ("Etc/GMT+1", "-1 - -01"),
  ("Etc/GMT+10", "-10 - -10"),
  ("Etc/GMT+11", "-11 - -11"),
  ("Etc/GMT+12", "-12 - -12"),
  ("Etc/GMT+2", "-2 - -02"),
  ("Etc/GMT+3", "-3 - -03"),
  ("Etc/GMT+4", "-4 - -04"),
  ("Etc/GMT+5", "-5 - -05"),
  ("Etc/GMT+6", "-6 - -06"),
  ("Etc/GMT+7", "-7 - -07"),
  ("Etc/GMT+8", "-8 - -08"),
  ("Etc/GMT+9", "-9 - -09"),
  ("Etc/GMT-1", "1 - +01"),
  ("Etc/GMT-10", "10 - +10"),
  ("Etc/GMT-11", "11 - +11"),
  ("Etc/GMT-12", "12 - +12"),
  ("Etc/GMT-13", "13 - +13"),
  ("Etc/GMT-14", "14 - +14"),
  ("Etc/GMT-2", "2 - +02"),
  ("Etc/GMT-3", "3 - +03"),
  ("Etc/GMT-4", "4 - +04"),
  ("Etc/GMT-5", "5 - +05"),
  ("Etc/GMT-6", "6 - +06"),
  ("Etc/GMT-7", "7 - +07"),
  ("Etc/GMT-8", "8 - +08"),
  ("Etc/GMT-9", "9 - +09"),
  ("Etc/UTC", "0 - UTC"),
  ("Europe/Amsterdam", "0:19:32 - LMT 1835; 0:19:32 N %s 1937 Jul; 0:20 N +0020/+0120 1940 May 16; 1
    c CE%sT 1945 Apr 2 2; 1 N CE%sT 1977; 1 E CE%sT"),
  ("Europe/Andorra", "0:6:4 - LMT 1901; 0 - WET 1946 Sep 30; 1 - CET 1985 Mar 31 2; 1 E CE%sT"),
  ("Europe/Astrakhan", "3:12:12 - LMT 1924 May; 3 - +03 1930 Jun 21; 4 R +04/+05 1989 Mar 26 2s; 3 R
    +03/+04 1991 Mar 31 2s; 4 - +04 1992 Mar 29 2s; 3 R +03/+04 2011 Mar 27 2s; 4 - +04 2014 Oct 26
    2s; 3 - +03 2016 Mar 27 2s; 4 - +04"),
  ("Europe/Athens", "1:34:52 - LMT 1895 Sep 14; 1:34:52 - AMT 1916 Jul 28 0:1; 2 g EE%sT 1941 Apr
    30; 1 g CE%sT 1944 Apr 4; 2 g EE%sT 1981; 2 E EE%sT"),
  ("Europe/Belgrade", "1:22 - LMT 1884; 1 - CET 1941 Apr 18 23; 1 c CE%sT 1945; 1 - CET 1945 May 8
    2s; 1 1 CEST 1945 Sep 16 2s; 1 - CET 1982 Nov 27; 1 E CE%sT"),
  ("Europe/Berlin", "0:53:28 - LMT 1893 Apr; 1 c CE%sT 1945 May 24 2; 1 So CE%sT 1946; 1 DE CE%sT
    1980; 1 E CE%sT"),
  ("Europe/Brussels", "0:17:30 - LMT 1880; 0:17:30 - BMT 1892 May 1 0:17:30; 0 - WET 1914 Nov 8; 1 -
    CET 1916 May; 1 c CE%sT 1918 Nov 11 11u; 0 b WE%sT 1940 May 20 2s; 1 c CE%sT 1944 Sep 3; 1 b
    CE%sT 1977; 1 E CE%sT"),
  ("Europe/Bucharest", "1:44:24 - LMT 1891 Oct; 1:44:24 - BMT 1931 Jul 24; 2 z EE%sT 1981 Mar 29 2s;
    2 c EE%sT 1991; 2 z EE%sT 1994; 2 e EE%sT 1997; 2 E EE%sT"),
  ("Europe/Budapest", "1:16:20 - LMT 1890 Nov; 1 c CE%sT 1918; 1 h CE%sT 1941 Apr 7 23; 1 c CE%sT
    1945; 1 h CE%sT 1984; 1 E CE%sT"),
  ("Europe/Chisinau", "1:55:20 - LMT 1880; 1:55 - CMT 1918 Feb 15; 1:44:24 - BMT 1931 Jul 24; 2 z
    EE%sT 1940 Aug 15; 2 1 EEST 1941 Jul 17; 1 c CE%sT 1944 Aug 24; 3 R MSK/MSD 1990 May 6 2; 2 R
    EE%sT 1992; 2 e EE%sT 1997; 2 MD EE%sT"),
  ("Europe/Copenhagen", "0:50:20 - LMT 1890; 0:50:20 - CMT 1894; 1 D CE%sT 1942 Nov 2 2s; 1 c CE%sT
    1945 Apr 2 2; 1 D CE%sT 1980; 1 E CE%sT"),
  ("Europe/Dublin", "-0:25:21 - LMT 1880 Aug 2; -0:25:21 - DMT 1916 May 21 2s; -0:25:21 1 IST 1916
    Oct 1 2s; 0 G %s 1921 Dec 6; 0 G GMT/IST 1940 Feb 25 2s; 0 1 IST 1946 Oct 6 2s; 0 - GMT 1947 Mar
    16 2s; 0 1 IST 1947 Nov 2 2s; 0 - GMT 1948 Apr 18 2s; 0 G GMT/IST 1968 Oct 27; 1 - IST 1971 Oct
    31 2u; 0 G GMT/IST 1996; 0 E GMT/IST"),
  ("Europe/Gibraltar", "-0:21:24 - LMT 1880 Aug 2; 0 G %s 1957 Apr 14 2; 1 - CET 1982; 1 E CE%sT"),
  ("Europe/Guernsey", "-0:10:9 - LMT 1913 Jun 18; 0 G %s 1940 Jul 2; 1 c CE%sT 1945 May 8; 0 G %s
    1968 Oct 27; 1 - BST 1971 Oct 31 2u; 0 G %s 1996; 0 E GMT/BST"),
  ("Europe/Helsinki", "1:39:49 - LMT 1878 May 31; 1:39:49 - HMT 1921 May; 2 FI EE%sT 1983; 2 E
    EE%sT"),
  ("Europe/Isle_of_Man", "-0:17:55 - LMT 1883 Mar 30 0s; 0 G %s 1968 Oct 27; 1 - BST 1971 Oct 31 2u;
    0 G %s 1996; 0 E GMT/BST"),
  ("Europe/Istanbul", "1:55:52 - LMT 1880; 1:56:56 - IMT 1910 Oct; 2 T EE%sT 1978 Jun 29; 3 T
    +03/+04 1984 Nov 1 2; 2 T EE%sT 2007; 2 E EE%sT 2011 Mar 27 1u; 2 - EET 2011 Mar 28 1u; 2 E
    EE%sT 2014 Mar 30 1u; 2 - EET 2014 Mar 31 1u; 2 E EE%sT 2015 Oct 25 1u; 2 1 EEST 2015 Nov 8 1u;
    2 E EE%sT 2016 Sep 7; 3 - +03"),
  ("Europe/Jersey", "-0:8:26 - LMT 1898 Jun 11 16u; 0 G %s 1940 Jul 2; 1 c CE%sT 1945 May 8; 0 G %s
    1968 Oct 27; 1 - BST 1971 Oct 31 2u; 0 G %s 1996; 0 E GMT/BST"),
  ("Europe/Kaliningrad", "1:22 - LMT 1893 Apr; 1 c CE%sT 1945 Apr 10; 2 O EE%sT 1946 Apr 7; 3 R
    MSK/MSD 1989 Mar 26 2s; 2 R EE%sT 2011 Mar 27 2s; 3 - +03 2014 Oct 26 2s; 2 - EET"),
  ("Europe/Kirov", "3:18:48 - LMT 1919 Jul 1 0u; 3 - +03 1930 Jun 21; 4 R +04/+05 1989 Mar 26 2s; 3
    R MSK/MSD 1991 Mar 31 2s; 4 - +04 1992 Mar 29 2s; 3 R MSK/MSD 2011 Mar 27 2s; 4 - MSK 2014 Oct
    26 2s; 3 - MSK"),
  ("Europe/Kyiv", "2:2:4 - LMT 1880; 2:2:4 - KMT 1924 May 2; 2 - EET 1930 Jun 21; 3 - MSK 1941 Sep
    20; 1 c CE%sT 1943 Nov 6; 3 R MSK/MSD 1990 Jul 1 2; 2 1 EEST 1991 Sep 29 3; 2 c EE%sT 1996 May
    13; 2 E EE%sT"),
  ("Europe/Lisbon", "-0:36:45 - LMT 1884; -0:36:45 - LMT 1912 Jan 1 0u; 0 p WE%sT 1966 Oct 2 2s; 1 -
    CET 1976 Sep 26 1; 0 p WE%sT 1986; 0 E WE%sT 1992 Sep 27 1u; 1 E CE%sT 1996 Mar 31 1u; 0 E
    WE%sT"),
  ("Europe/Ljubljana", "0:58:4 - LMT 1884; 1 - CET 1941 Apr 18 23; 1 c CE%sT 1945 May 8 2s; 1 1 CEST
    1945 Sep 16 2s; 1 - CET 1982 Nov 27; 1 E CE%sT"),
  ("Europe/London", "-0:1:15 - LMT 1847 Dec; 0 G %s 1968 Oct 27; 1 - BST 1971 Oct 31 2u; 0 G %s
    1996; 0 E GMT/BST"),
  ("Europe/Luxembourg", "0:24:36 - LMT 1904 Jun; 1 LX CE%sT 1918 Nov 25; 0 LX WE%sT 1929 Oct 6 2s; 0
    b WE%sT 1940 May 14 3; 1 c WE%sT 1944 Sep 18 3; 1 b CE%sT 1977; 1 E CE%sT"),
  ("Europe/Madrid", "-0:14:44 - LMT 1901 Jan 1 0u; 0 s WE%sT 1940 Mar 16 23; 1 s CE%sT 1979; 1 E
    CE%sT"),
  ("Europe/Malta", "0:58:4 - LMT 1893 Nov 2; 1 I CE%sT 1973 Mar 31; 1 MT CE%sT 1981; 1 E CE%sT"),
  ("Europe/Minsk", "1:50:16 - LMT 1880; 1:50 - MMT 1924 May 2; 2 - EET 1930 Jun 21; 3 - MSK 1941 Jun
    28; 1 c CE%sT 1944 Jul 3; 3 R MSK/MSD 1990; 3 - MSK 1991 Mar 31 2s; 2 R EE%sT 2011 Mar 27 2s; 3
    - +03"),
  ("Europe/Monaco", "0:29:32 - LMT 1892 Jun; 0:9:21 - PMT 1911 Mar 29; 0 F WE%sT 1945 Sep 16 3; 1 F
    CE%sT 1977; 1 E CE%sT"),
  ("Europe/Moscow", "2:30:17 - LMT 1880; 2:30:17 - MMT 1916 Jul 3; 2:31:19 R %s 1919 Jul 1 0u; 3 R
    %s 1921 Oct; 3 R MSK/MSD 1922 Oct; 2 - EET 1930 Jun 21; 3 R MSK/MSD 1991 Mar 31 2s; 2 R EE%sT
    1992 Jan 19 2s; 3 R MSK/MSD 2011 Mar 27 2s; 4 - MSK 2014 Oct 26 2s; 3 - MSK"),
  ("Europe/Oslo", "0:43 - LMT 1895; 1 NO CE%sT 1940 Aug 10 23; 1 c CE%sT 1945 Apr 2 2; 1 NO CE%sT
    1980; 1 E CE%sT"),
  ("Europe/Paris", "0:9:21 - LMT 1891 Mar 16; 0:9:21 - PMT 1911 Mar 11; 0 F WE%sT 1940 Jun 14 23; 1
    c CE%sT 1944 Aug 25; 0 F WE%sT 1945 Sep 16 3; 1 F CE%sT 1977; 1 E CE%sT"),
  ("Europe/Prague", "0:57:44 - LMT 1850; 0:57:44 - PMT 1891 Oct; 1 c CE%sT 1945 May 9; 1 CZ CE%sT
    1946 Dec 1 3; 0 - GMT 1947 Feb 23 2; 1 CZ CE%sT 1979; 1 E CE%sT"),
  ("Europe/Riga", "1:36:34 - LMT 1880; 1:36:34 - RMT 1918 Apr 15 2; 1:36:34 1 LST 1918 Sep 16 3;
    1:36:34 - RMT 1919 Apr 1 2; 1:36:34 1 LST 1919 May 22 3; 1:36:34 - RMT 1926 May 11; 2 - EET 1940
    Aug 5; 3 - MSK 1941 Jul; 1 c CE%sT 1944 Oct 13; 3 R MSK/MSD 1989 Mar lastSun 2s; 2 1 EEST 1989
    Sep lastSun 2s; 2 LV EE%sT 1997 Jan 21; 2 E EE%sT 2000 Feb 29; 2 - EET 2001 Jan 2; 2 E EE%sT"),
  ("Europe/Rome", "0:49:56 - LMT 1866 Dec 12; 0:49:56 - RMT 1893 Oct 31 23u; 1 I CE%sT 1943 Sep 10;
    1 c CE%sT 1944 Jun 4; 1 I CE%sT 1980; 1 E CE%sT"),
  ("Europe/Samara", "3:20:20 - LMT 1919 Jul 1 0u; 3 - +03 1930 Jun 21; 4 - +04 1935 Jan 27; 4 R
    +04/+05 1989 Mar 26 2s; 3 R +03/+04 1991 Mar 31 2s; 2 R +02/+03 1991 Sep 29 2s; 3 - +03 1991 Oct
    20 3; 4 R +04/+05 2010 Mar 28 2s; 3 R +03/+04 2011 Mar 27 2s; 4 - +04"),
  ("Europe/Sarajevo", "1:13:40 - LMT 1884; 1 - CET 1941 Apr 18 23; 1 c CE%sT 1945 May 8 2s; 1 1 CEST
    1945 Sep 16 2s; 1 - CET 1982 Nov 27; 1 E CE%sT"),
  ("Europe/Saratov", "3:4:18 - LMT 1919 Jul 1 0u; 3 - +03 1930 Jun 21; 4 R +04/+05 1988 Mar 27 2s; 3
    R +03/+04 1991 Mar 31 2s; 4 - +04 1992 Mar 29 2s; 3 R +03/+04 2011 Mar 27 2s; 4 - +04 2014 Oct
    26 2s; 3 - +03 2016 Dec 4 2s; 4 - +04"),
  ("Europe/Simferopol", "2:16:24 - LMT 1880; 2:16 - SMT 1924 May 2; 2 - EET 1930 Jun 21; 3 - MSK
    1941 Nov; 1 c CE%sT 1944 Apr 13; 3 R MSK/MSD 1990; 3 - MSK 1990 Jul 1 2; 2 - EET 1992 Mar 20; 2
    c EE%sT 1994 May; 3 c MSK/MSD 1996 Mar 31 0s; 3 1 MSD 1996 Oct 27 3s; 3 - MSK 1997 Mar lastSun
    1u; 2 E EE%sT 2014 Mar 30 2; 4 - MSK 2014 Oct 26 2s; 3 - MSK"),
  ("Europe/Skopje", "1:25:44 - LMT 1884; 1 - CET 1941 Apr 18 23; 1 c CE%sT 1945 May 8 2s; 1 1 CEST
    1945 Sep 16 2s; 1 - CET 1982 Nov 27; 1 E CE%sT"),
  ("Europe/Sofia", "1:33:16 - LMT 1880; 1:56:56 - IMT 1894 Nov 30; 2 - EET 1942 Nov 2 3; 1 c CE%sT
    1945; 1 - CET 1945 Apr 2 3; 2 - EET 1979 Mar 31 23; 2 BG EE%sT 1982 Sep 26 3; 2 c EE%sT 1991; 2
    e EE%sT 1997; 2 E EE%sT"),
  ("Europe/Stockholm", "1:12:12 - LMT 1879; 1:0:14 - SET 1900; 1 - CET 1916 May 14 23; 1 1 CEST 1916
    Oct 1 1; 1 - CET 1980; 1 E CE%sT"),
  ("Europe/Tallinn", "1:39 - LMT 1880; 1:39 - TMT 1918 Feb; 1 c CE%sT 1919 Jul; 1:39 - TMT 1921 May;
    2 - EET 1940 Aug 6; 3 - MSK 1941 Sep 15; 1 c CE%sT 1944 Sep 22; 3 R MSK/MSD 1989 Mar 26 2s; 2 1
    EEST 1989 Sep 24 2s; 2 c EE%sT 1998 Sep 22; 2 E EE%sT 1999 Oct 31 4; 2 - EET 2002 Feb 21; 2 E
    EE%sT"),
  ("Europe/Tirane", "1:19:20 - LMT 1914; 1 - CET 1940 Jun 16; 1 q CE%sT 1984 Jul; 1 E CE%sT"),
  ("Europe/Ulyanovsk", "3:13:36 - LMT 1919 Jul 1 0u; 3 - +03 1930 Jun 21; 4 R +04/+05 1989 Mar 26
    2s; 3 R +03/+04 1991 Mar 31 2s; 2 R +02/+03 1992 Jan 19 2s; 3 R +03/+04 2011 Mar 27 2s; 4 - +04
    2014 Oct 26 2s; 3 - +03 2016 Mar 27 2s; 4 - +04"),
  ("Europe/Vaduz", "0:38:4 - LMT 1894 Jun; 1 CH CE%sT 1981; 1 E CE%sT"),
  ("Europe/Vienna", "1:5:21 - LMT 1893 Apr; 1 c CE%sT 1920; 1 a CE%sT 1940 Apr 1 2s; 1 c CE%sT 1945
    Apr 2 2s; 1 1 CEST 1945 Apr 12 2s; 1 - CET 1946; 1 a CE%sT 1981; 1 E CE%sT"),
  ("Europe/Vilnius", "1:41:16 - LMT 1880; 1:24 - WMT 1917; 1:35:36 - KMT 1919 Oct 10; 1 - CET 1920
    Jul 12; 2 - EET 1920 Oct 9; 1 - CET 1940 Aug 3; 3 - MSK 1941 Jun 24; 1 c CE%sT 1944 Aug; 3 R
    MSK/MSD 1989 Mar 26 2s; 2 R EE%sT 1991 Sep 29 2s; 2 c EE%sT 1998; 2 - EET 1998 Mar 29 1u; 1 E
    CE%sT 1999 Oct 31 1u; 2 - EET 2003; 2 E EE%sT"),
  ("Europe/Volgograd", "2:57:40 - LMT 1920 Jan 3; 3 - +03 1930 Jun 21; 4 - +04 1961 Nov 11; 4 R
    +04/+05 1988 Mar 27 2s; 3 R MSK/MSD 1991 Mar 31 2s; 4 - +04 1992 Mar 29 2s; 3 R MSK/MSD 2011 Mar
    27 2s; 4 - MSK 2014 Oct 26 2s; 3 - MSK 2018 Oct 28 2s; 4 - +04 2020 Dec 27 2s; 3 - MSK"),
  ("Europe/Warsaw", "1:24 - LMT 1880; 1:24 - WMT 1915 Aug 5; 1 c CE%sT 1918 Sep 16 3; 2 O EE%sT 1922
    Jun; 1 O CE%sT 1940 Jun 23 2; 1 c CE%sT 1944 Oct; 1 O CE%sT 1977; 1 W- CE%sT 1988; 1 E CE%sT"),
  ("Europe/Zagreb", "1:3:52 - LMT 1884; 1 - CET 1941 Apr 18 23; 1 c CE%sT 1945 May 8 2s; 1 1 CEST
    1945 Sep 16 2s; 1 - CET 1982 Nov 27; 1 E CE%sT"),
  ("Europe/Zurich", "0:34:8 - LMT 1853 Jul 16; 0:29:46 - BMT 1894 Jun; 1 CH CE%sT 1981; 1 E CE%sT"),
  ("Factory", "0 - -00"),
  ("HST", "-10 - HST"),
  ("Indian/Antananarivo", "3:10:4 - LMT 1911 Jul; 3 - EAT 1954 Feb 27 23s; 3 1 EAST 1954 May 29 23s;
    3 - EAT"),
  ("Indian/Chagos", "4:49:40 - LMT 1907; 5 - +05 1996; 6 - +06"),
  ("Indian/Christmas", "7:2:52 - LMT 1895 Feb; 7 - +07"),
  ("Indian/Cocos", "6:27:40 - LMT 1900; 6:30 - +0630"),
  ("Indian/Comoro", "2:53:4 - LMT 1911 Jul; 3 - EAT"),
  ("Indian/Kerguelen", "0 - -00 1950; 5 - +05"),
  ("Indian/Mahe", "3:41:48 - LMT 1907; 4 - +04"),
  ("Indian/Maldives", "4:54 - LMT 1880; 4:54 - MMT 1960; 5 - +05"),
  ("Indian/Mauritius", "3:50 - LMT 1907; 4 MU +04/+05"),
  ("Indian/Mayotte", "3:0:56 - LMT 1911 Jul; 3 - EAT"),
  ("Indian/Reunion", "3:41:52 - LMT 1911 Jun; 4 - +04"),
  ("MET", "1 c ME%sT"),
  ("MST", "-7 - MST"),
  ("MST7MDT", "-7 u M%sT"),
  ("PST8PDT", "-8 u P%sT"),
  ("Pacific/Apia", "12:33:4 - LMT 1892 Jul 5; -11:26:56 - LMT 1911; -11:30 - -1130 1950; -11 WS
    -11/-10 2011 Dec 29 24; 13 WS +13/+14"),
  ("Pacific/Auckland", "11:39:4 - LMT 1868 Nov 2; 11:30 NZ NZ%sT 1946; 12 NZ NZ%sT"),
  ("Pacific/Bougainville", "10:22:16 - LMT 1880; 9:48:32 - PMMT 1895; 10 - +10 1942 Jul; 9 - +09
    1945 Aug 21; 10 - +10 2014 Dec 28 2; 11 - +11"),
  ("Pacific/Chatham", "12:13:48 - LMT 1868 Nov 2; 12:15 - +1215 1946; 12:45 k +1245/+1345"),
  ("Pacific/Chuuk", "-13:52:52 - LMT 1844 Dec 31; 10:7:8 - LMT 1901; 10 - +10 1914 Oct; 9 - +09 1919
    Feb; 10 - +10 1941 Apr; 9 - +09 1945 Aug; 10 - +10"),
  ("Pacific/Easter", "-7:17:28 - LMT 1890; -7:17:28 - EMT 1932 Sep; -7 x -07/-06 1982 Mar 14 3u; -6
    x -06/-05"),
  ("Pacific/Efate", "11:13:16 - LMT 1912 Jan 13; 11 VU +11/+12"),
  ("Pacific/Fakaofo", "-11:24:56 - LMT 1901; -11 - -11 2011 Dec 30; 13 - +13"),
  ("Pacific/Fiji", "11:55:44 - LMT 1915 Oct 26; 12 FJ +12/+13"),
  ("Pacific/Funafuti", "11:56:52 - LMT 1901; 12 - +12"),
  ("Pacific/Galapagos", "-5:58:24 - LMT 1931; -5 - -05 1986; -6 EC -06/-05"),
  ("Pacific/Gambier", "-8:59:48 - LMT 1912 Oct; -9 - -09"),
  ("Pacific/Guadalcanal", "10:39:48 - LMT 1912 Oct; 11 - +11"),
  ("Pacific/Guam", "-14:21 - LMT 1844 Dec 31; 9:39 - LMT 1901; 10 - GST 1941 Dec 10; 9 - +09 1944
    Jul 31; 10 Gu G%sT 2000 Dec 23; 10 - ChST"),
  ("Pacific/Honolulu", "-10:31:26 - LMT 1896 Jan 13 12; -10:30 - HST 1933 Apr 30 2; -10:30 1 HDT
    1933 May 21 12; -10:30 u H%sT 1947 Jun 8 2; -10 - HST"),
  ("Pacific/Kanton", "0 - -00 1937 Aug 31; -12 - -12 1979 Oct; -11 - -11 1994 Dec 31; 13 - +13"),
  ("Pacific/Kiritimati", "-10:29:20 - LMT 1901; -10:40 - -1040 1979 Oct; -10 - -10 1994 Dec 31; 14 -
    +14"),
  ("Pacific/Kosrae", "-13:8:4 - LMT 1844 Dec 31; 10:51:56 - LMT 1901; 11 - +11 1914 Oct; 9 - +09
    1919 Feb; 11 - +11 1937; 10 - +10 1941 Apr; 9 - +09 1945 Aug; 11 - +11 1969 Oct; 12 - +12 1999;
    11 - +11"),
  ("Pacific/Kwajalein", "11:9:20 - LMT 1901; 11 - +11 1937; 10 - +10 1941 Apr; 9 - +09 1944 Feb 6;
    11 - +11 1969 Oct; -12 - -12 1993 Aug 20 24; 12 - +12"),
  ("Pacific/Majuro", "11:24:48 - LMT 1901; 11 - +11 1914 Oct; 9 - +09 1919 Feb; 11 - +11 1937; 10 -
    +10 1941 Apr; 9 - +09 1944 Jan 30; 11 - +11 1969 Oct; 12 - +12"),
  ("Pacific/Marquesas", "-9:18 - LMT 1912 Oct; -9:30 - -0930"),
  ("Pacific/Midway", "-11:49:28 - LMT 1901; -11 - -11 1956 Jun 3; -11 1 -10 1956 Sep 2; -11 - SST"),
  ("Pacific/Nauru", "11:7:40 - LMT 1921 Jan 15; 11:30 - +1130 1942 Aug 29; 9 - +09 1945 Sep 8; 11:30
    - +1130 1979 Feb 10 2; 12 - +12"),
  ("Pacific/Niue", "-11:19:40 - LMT 1952 Oct 16; -11:20 - -1120 1964 Jul; -11 - -11"),
  ("Pacific/Norfolk", "11:11:52 - LMT 1901; 11:12 - +1112 1951; 11:30 - +1130 1974 Oct 27 2s; 11:30
    1 +1230 1975 Mar 2 2s; 11:30 - +1130 2015 Oct 4 2s; 11 - +11 2019 Jul; 11 AN +11/+12"),
  ("Pacific/Noumea", "11:5:48 - LMT 1912 Jan 13; 11 NC +11/+12"),
  ("Pacific/Pago_Pago", "12:37:12 - LMT 1892 Jul 5; -11:22:48 - LMT 1911; -11 - SST"),
  ("Pacific/Palau", "-15:2:4 - LMT 1844 Dec 31; 8:57:56 - LMT 1901; 9 - +09"),
  ("Pacific/Pitcairn", "-8:40:20 - LMT 1901; -8:30 - -0830 1998 Apr 27; -8 - -08"),
  ("Pacific/Pohnpei", "-13:27:8 - LMT 1844 Dec 31; 10:32:52 - LMT 1901; 11 - +11 1914 Oct; 9 - +09
    1919 Feb; 11 - +11 1937; 10 - +10 1941 Apr; 9 - +09 1945 Aug; 11 - +11"),
  ("Pacific/Port_Moresby", "9:48:40 - LMT 1880; 9:48:32 - PMMT 1895; 10 - +10"),
  ("Pacific/Rarotonga", "13:20:56 - LMT 1899 Dec 26; -10:39:4 - LMT 1952 Oct 16; -10:30 - -1030 1978
    Nov 12; -10 CK -10/-0930"),
  ("Pacific/Saipan", "-14:17 - LMT 1844 Dec 31; 9:43 - LMT 1901; 9 - +09 1944 Jul 9; 10 Gu G%sT 2000
    Dec 23; 10 - ChST"),
  ("Pacific/Tahiti", "-9:58:16 - LMT 1912 Oct; -10 - -10"),
  ("Pacific/Tarawa", "11:32:4 - LMT 1901; 12 - +12"),
  ("Pacific/Tongatapu", "12:19:12 - LMT 1945 Sep 10; 12:20 - +1220 1961; 13 - +13 1999; 13 TO
    +13/+14"),
  ("Pacific/Wake", "11:6:28 - LMT 1901; 12 - +12"),
  ("Pacific/Wallis", "12:15:20 - LMT 1901; 12 - +12"),
  ("WET", "0 E WE%sT")]

/-- Places, and the other names under which they are known. -/
def aliasTable : List (String × String) := [
  ("Africa/Asmara", "Africa/Asmera"),
  ("Africa/Bamako", "Africa/Timbuktu"),
  ("Africa/Cairo", "Egypt"),
  ("Africa/Tripoli", "Libya"),
  ("America/Adak", "America/Atka US/Aleutian"),
  ("America/Anchorage", "US/Alaska"),
  ("America/Argentina/Buenos_Aires", "America/Buenos_Aires"),
  ("America/Argentina/Catamarca", "America/Argentina/ComodRivadavia America/Catamarca"),
  ("America/Argentina/Cordoba", "America/Cordoba America/Rosario"),
  ("America/Argentina/Jujuy", "America/Jujuy"),
  ("America/Argentina/Mendoza", "America/Mendoza"),
  ("America/Atikokan", "America/Coral_Harbour"),
  ("America/Chicago", "US/Central"),
  ("America/Curacao", "America/Kralendijk America/Lower_Princes"),
  ("America/Denver", "America/Shiprock Navajo US/Mountain"),
  ("America/Detroit", "US/Michigan"),
  ("America/Edmonton", "America/Yellowknife Canada/Mountain"),
  ("America/Halifax", "Canada/Atlantic"),
  ("America/Havana", "Cuba"),
  ("America/Indiana/Indianapolis", "America/Fort_Wayne America/Indianapolis US/East-Indiana"),
  ("America/Indiana/Knox", "America/Knox_IN US/Indiana-Starke"),
  ("America/Iqaluit", "America/Pangnirtung"),
  ("America/Jamaica", "Jamaica"),
  ("America/Kentucky/Louisville", "America/Louisville"),
  ("America/Los_Angeles", "US/Pacific"),
  ("America/Manaus", "Brazil/West"),
  ("America/Mazatlan", "Mexico/BajaSur"),
  ("America/Mexico_City", "Mexico/General"),
  ("America/New_York", "US/Eastern"),
  ("America/Noronha", "Brazil/DeNoronha"),
  ("America/Nuuk", "America/Godthab"),
  ("America/Phoenix", "US/Arizona"),
  ("America/Port_of_Spain", "America/Marigot America/St_Barthelemy"),
  ("America/Regina", "Canada/Saskatchewan"),
  ("America/Rio_Branco", "America/Porto_Acre Brazil/Acre"),
  ("America/Santiago", "Chile/Continental"),
  ("America/Sao_Paulo", "Brazil/East"),
  ("America/St_Johns", "Canada/Newfoundland"),
  ("America/St_Thomas", "America/Virgin"),
  ("America/Tijuana", "America/Ensenada America/Santa_Isabel Mexico/BajaNorte"),
  ("America/Toronto", "America/Montreal America/Nipigon America/Thunder_Bay Canada/Eastern"),
  ("America/Vancouver", "Canada/Pacific"),
  ("America/Whitehorse", "Canada/Yukon"),
  ("America/Winnipeg", "America/Rainy_River Canada/Central"),
  ("Antarctica/McMurdo", "Antarctica/South_Pole"),
  ("Asia/Ashgabat", "Asia/Ashkhabad"),
  ("Asia/Dhaka", "Asia/Dacca"),
  ("Asia/Ho_Chi_Minh", "Asia/Saigon"),
  ("Asia/Hong_Kong", "Hongkong"),
  ("Asia/Jerusalem", "Asia/Tel_Aviv Israel"),
  ("Asia/Kathmandu", "Asia/Katmandu"),
  ("Asia/Kolkata", "Asia/Calcutta"),
  ("Asia/Macau", "Asia/Macao"),
  ("Asia/Makassar", "Asia/Ujung_Pandang"),
  ("Asia/Nicosia", "Europe/Nicosia"),
  ("Asia/Seoul", "ROK"),
  ("Asia/Shanghai", "Asia/Chongqing Asia/Chungking Asia/Harbin PRC"),
  ("Asia/Singapore", "Singapore"),
  ("Asia/Taipei", "ROC"),
  ("Asia/Tehran", "Iran"),
  ("Asia/Thimphu", "Asia/Thimbu"),
  ("Asia/Tokyo", "Japan"),
  ("Asia/Ulaanbaatar", "Asia/Choibalsan Asia/Ulan_Bator"),
  ("Asia/Urumqi", "Asia/Kashgar"),
  ("Asia/Yangon", "Asia/Rangoon"),
  ("Atlantic/Faroe", "Atlantic/Faeroe"),
  ("Atlantic/Reykjavik", "Iceland"),
  ("Australia/Adelaide", "Australia/South"),
  ("Australia/Brisbane", "Australia/Queensland"),
  ("Australia/Broken_Hill", "Australia/Yancowinna"),
  ("Australia/Darwin", "Australia/North"),
  ("Australia/Hobart", "Australia/Currie Australia/Tasmania"),
  ("Australia/Lord_Howe", "Australia/LHI"),
  ("Australia/Melbourne", "Australia/Victoria"),
  ("Australia/Perth", "Australia/West"),
  ("Australia/Sydney", "Australia/ACT Australia/Canberra Australia/NSW"),
  ("Etc/GMT", "Etc/GMT+0 Etc/GMT-0 Etc/GMT0 Etc/Greenwich GMT GMT+0 GMT-0 GMT0 Greenwich"),
  ("Etc/UTC", "Etc/UCT Etc/Universal Etc/Zulu UCT UTC Universal Zulu"),
  ("Europe/Belgrade", "Europe/Podgorica"),
  ("Europe/Chisinau", "Europe/Tiraspol"),
  ("Europe/Dublin", "Eire"),
  ("Europe/Helsinki", "Europe/Mariehamn"),
  ("Europe/Istanbul", "Asia/Istanbul Turkey"),
  ("Europe/Kyiv", "Europe/Kiev Europe/Uzhgorod Europe/Zaporozhye"),
  ("Europe/Lisbon", "Portugal"),
  ("Europe/London", "Europe/Belfast GB GB-Eire"),
  ("Europe/Moscow", "W-SU"),
  ("Europe/Oslo", "Arctic/Longyearbyen Atlantic/Jan_Mayen"),
  ("Europe/Prague", "Europe/Bratislava"),
  ("Europe/Rome", "Europe/San_Marino Europe/Vatican"),
  ("Europe/Warsaw", "Poland"),
  ("Europe/Zurich", "Europe/Busingen"),
  ("Pacific/Auckland", "NZ"),
  ("Pacific/Chatham", "NZ-CHAT"),
  ("Pacific/Chuuk", "Pacific/Truk Pacific/Yap"),
  ("Pacific/Easter", "Chile/EasterIsland"),
  ("Pacific/Honolulu", "Pacific/Johnston US/Hawaii"),
  ("Pacific/Kanton", "Pacific/Enderbury"),
  ("Pacific/Kwajalein", "Kwajalein"),
  ("Pacific/Pago_Pago", "Pacific/Samoa US/Samoa"),
  ("Pacific/Pohnpei", "Pacific/Ponape")]

end Trellis.Locale.Zone
